import ConsentGate.Event
import ConsentGate.Identity

namespace ConsentGate

structure Resolver where
  secret : Text
  template : Text
  headerName : Text
  cookieName : Text

namespace Resolver

def defaultTemplate : Text :=
  .ofString ("{{client_ip}}:{{user_agent}}:{{first_party_id}}:" ++
    "{{auth_user_id}}:{{publisher_domain}}:{{accept_language}}")

def defaultHeader : String := "x-synthetic-trusted-server"

def defaultCookie : String := "synthetic_id"

/-- The secret is looked at before the template. -/
def make (secret : Text) (template : Text := defaultTemplate) (headerName : Text := defaultHeader)
    (cookieName : Text := defaultCookie) : Except IdentityError Resolver := do
  if secret.isEmpty then throw .emptySecret
  let _ ← (Template.parseWith Attribute.names template).mapError .template
  return { secret, template, headerName, cookieName }

def toString (r : Resolver) : String :=
  "IdentityResolver(template=" ++ Quoted.quote r.template ++ ")"

def freshId (r : Resolver) (as : Attributes) : Logged IdentityError Text := do
  let digits ← Logged.ofExcept (Identity.generate r.secret r.template as)
  let id := Text.ofString digits
  Logged.log (.idGenerated id)
  return id

def nonEmpty (t : Option Text) : Option Text := t.filter (· ≠ [])

/-- The header comes first, then the cookie; without either an id is derived. -/
def resolve (r : Resolver) (s : Signals) (as : Attributes) : Logged IdentityError Identity :=
  match nonEmpty (s.header r.headerName), nonEmpty (s.cookie r.cookieName) with
  | some id, _ => ⟨[.idFromHeader id], .ok ⟨id, .fromHeader⟩⟩
  | none, some id => ⟨[.idFromCookie id], .ok ⟨id, .fromCookie⟩⟩
  | none, none => do
    let id ← r.freshId as
    Logged.log (.idGeneratedForRequest id)
    return ⟨id, .generated⟩

/-- Where no attributes are given, those of the request count. -/
def resolveFor (r : Resolver) (s : Signals) (attributes : Option Attributes) :
    Logged IdentityError Identity :=
  r.resolve s (attributes.getD (.ofSignals s))

end Resolver

end ConsentGate
