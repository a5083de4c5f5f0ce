import ConsentGate.Http.Route
import ConsentGate.Settings.Parts

namespace ConsentGate

structure Service where
  settings : Settings
  gate : Gate
  cache : Cache

namespace Service

open Http

inductive StartError where
  | interval (e : IntervalError)
  | identity (e : IdentityError)

/-- Without a cache the service makes one of its own. -/
def start (now : Moment) (s : Settings) (decoder : Option Decoder) (given : Option Cache) :
    Except StartError Service := do
  let cache ← match given with
    | some c => pure c
    | none => (s.cache now).mapError .interval
  let gate ← (s.gate decoder).mapError .identity
  return ⟨s, gate, cache⟩

def detail (message : Json) : Json := .object [("detail", message)]

/-- The purposes that a query asks for; none means access to the device. -/
def requestedPurposes (q : Query) : Schema.Reading (List Int) :=
  (Schema.Reading.eachFrom Schema.intOfString 0 (q.values "purposes")).map fun ps =>
    if ps.isEmpty then PurposeGroup.deviceAccess.ids else ps

def issueJson (values : List String) (i : Schema.Issue) : Json :=
  let value := match i.path with
    | [.index n] => values[n]?
    | _ => none
  .object [("type", .string i.fault.code),
    ("loc", .array (.string "query" :: .string "purposes" :: i.path.map Schema.Step.toJson)),
    ("msg", .string i.fault.message), ("input", .ofOption .string value)]

def unreadableReply (values : List String) (found : List Schema.Issue) : Reply where
  status := 422
  body := some (detail (.array (found.map (issueJson values))))

/-- Ids leave only with a decision that allows it, and are stored only with access to the
device. -/
def identityHeaders (domain : Text) (d : Decision) : List (String × Text) :=
  if d.allowed then
    (d.freshId.map fun id => ("x-synthetic-fresh", id)).toList ++
      [("x-synthetic-trusted-server", d.syntheticId)] ++
      (if d.deviceAccess then
        [("set-cookie", Cookies.setting Resolver.defaultCookie d.syntheticId domain)]
      else [])
  else []

def decisionReply (domain : Text) (d : Decision) : Reply where
  status := 200
  headers :=
    ("x-consent-advertising",
      .ofString (if d.advertisingLevel.atLeast .basicOnly then "true" else "false")) ::
      identityHeaders domain d ++ [("cache-control", .ofString "no-store, private")]
  body := some (.object d.publicFields)

def failureReply (e : IdentityError) : Reply where
  status := e.status
  body := some (.object [("error", .string e.kind), ("detail", .string e.message)])

def vendorListReply (c : Cache) (now : Moment) : Reply where
  status := 200
  body := some (.object [("loaded", .bool c.list.isSome),
    ("version", .ofOption (fun l => .int l.version) c.list),
    ("vendors", .int (c.list.elim 0 fun l => l.vendors.length)),
    ("loaded_at", .ofOption (fun s => .string s.loadedAt.toString) c.snapshot),
    ("stale", .bool (c.isStale now)), ("refresh_in_progress", .bool c.inFlight)])

abbrev Outcome := Except WideRun Reply

def send (r : Reply) : Outcome := r.unsendable?.elim (.ok r) .error

def decide (s : Service) (now : Moment) (r : Request) : Service × Outcome × List Event :=
  let query := Query.ofString r.query
  match requestedPurposes query with
  | .issues found => (s, send (unreadableReply (query.values "purposes") found), [])
  | .value ps =>
    let run := s.gate.evaluate (some s.cache) now r.signals ps now
    let s := { s with cache := run.cache.getD s.cache }
    let events := run.decision.events ++ run.refreshEvents
    match run.decision.result with
    | .ok d => (s, send (decisionReply s.settings.publisher.cookieDomain d), events)
    | .error e =>
      (s, send (failureReply e), events ++ [.requestFailed e.kind e.message r.shownPath])

def plainReply (status : Nat) (message : String) : Reply where
  status := status
  body := some (detail (.string message))

def redirection (address : String) : Reply where
  status := 307
  headers := [("location", .ofString address)]

def handle (s : Service) (now : Moment) (r : Request) : Service × Outcome × List Event :=
  match r.destination with
  | .route .decision => s.decide now r
  | .route .vendorList => (s, send (vendorListReply s.cache now), [])
  | .wrongMethod => (s, send (plainReply 405 "Method Not Allowed"), [])
  | .elsewhere path => (s, send (redirection (r.addressOf path)), [])
  | .nowhere => (s, send (plainReply 404 "Not Found"), [])

end Service

end ConsentGate
