import ConsentGate.Signals
import ConsentGate.Template.Basic

namespace ConsentGate

inductive Attribute where
  | clientIp
  | userAgent
  | firstPartyId
  | authUserId
  | publisherDomain
  | acceptLanguage
deriving DecidableEq

namespace Attribute

def all : List Attribute :=
  [clientIp, userAgent, firstPartyId, authUserId, publisherDomain, acceptLanguage]

def name : Attribute → String
  | clientIp => "client_ip"
  | userAgent => "user_agent"
  | firstPartyId => "first_party_id"
  | authUserId => "auth_user_id"
  | publisherDomain => "publisher_domain"
  | acceptLanguage => "accept_language"

def fallback : Attribute → Text
  | clientIp | userAgent | acceptLanguage => "unknown"
  | firstPartyId | authUserId => "anonymous"
  | publisherDomain => "unknown.com"

def names : List Text := all.map fun a => .ofString a.name

def ofName? (name : Text) : Option Attribute := all.find? fun a => Text.ofString a.name = name

theorem mem_all (a : Attribute) : a ∈ all := by cases a <;> decide

end Attribute

structure Attributes where
  clientIp : Text := Attribute.clientIp.fallback
  userAgent : Text := Attribute.userAgent.fallback
  firstPartyId : Text := Attribute.firstPartyId.fallback
  authUserId : Text := Attribute.authUserId.fallback
  publisherDomain : Text := Attribute.publisherDomain.fallback
  acceptLanguage : Text := Attribute.acceptLanguage.fallback
deriving DecidableEq, Inhabited

namespace Attributes

def get (as : Attributes) : Attribute → Text
  | .clientIp => as.clientIp
  | .userAgent => as.userAgent
  | .firstPartyId => as.firstPartyId
  | .authUserId => as.authUserId
  | .publisherDomain => as.publisherDomain
  | .acceptLanguage => as.acceptLanguage

def firstLanguage (t : Text) : Text := t.takeWhile (· != .scalar ',')

def signal (s : Signals) : Attribute → Option Text
  | .clientIp => s.clientIp
  | .userAgent => s.header "user-agent"
  | .firstPartyId => s.cookie "pub_userid"
  | .authUserId => s.header "x-pub-user-id"
  | .publisherDomain => s.header "host"
  | .acceptLanguage => (s.header "accept-language").map firstLanguage

def ofFunction (f : Attribute → Text) : Attributes where
  clientIp := f .clientIp
  userAgent := f .userAgent
  firstPartyId := f .firstPartyId
  authUserId := f .authUserId
  publisherDomain := f .publisherDomain
  acceptLanguage := f .acceptLanguage

def ofSignals (s : Signals) : Attributes := ofFunction fun a => (signal s a).getD a.fallback

@[simp] theorem get_ofFunction (f : Attribute → Text) (a : Attribute) :
    (ofFunction f).get a = f a := by cases a <;> rfl

@[simp] theorem get_ofSignals (s : Signals) (a : Attribute) :
    (ofSignals s).get a = (signal s a).getD a.fallback := get_ofFunction _ a

def value (as : Attributes) (name : Text) : Text :=
  ((Attribute.ofName? name).map as.get).getD []

open Schema

/-- Null counts as absent. -/
def readField (f : Json.Fields) (a : Attribute) : Reading Text :=
  field f a.name (fun j => (optional readText j).map (·.getD a.fallback)) (some a.fallback)

def readFields (f : Json.Fields) : Reading Attributes :=
  Attributes.mk <$> readField f .clientIp <*> readField f .userAgent <*> readField f .firstPartyId
    <*> readField f .authUserId <*> readField f .publisherDomain <*> readField f .acceptLanguage

def toJson (as : Attributes) : Json :=
  .object (Attribute.all.map fun a => (a.name, .ofText (as.get a)))

end Attributes

end ConsentGate
