import ConsentGate.Text.Quoted

namespace ConsentGate

inductive PurposeGroup where
  /-- Store or access information on a device. -/
  | deviceAccess
  /-- Basic ads, a profile for personalised ads, and those ads. -/
  | advertising
  /-- Ad performance, content performance and market research. -/
  | analytics
  | basicAds
deriving DecidableEq

namespace PurposeGroup

def ids : PurposeGroup → List Int
  | deviceAccess => [1]
  | advertising => [2, 3, 4]
  | analytics => [7, 8, 9]
  | basicAds => [2]

def name : PurposeGroup → String
  | deviceAccess => "DEVICE_ACCESS"
  | advertising => "ADVERTISING"
  | analytics => "ANALYTICS"
  | basicAds => "BASIC_ADS"

def ofName? (name : String) : Option PurposeGroup :=
  [deviceAccess, advertising, analytics, basicAds].find? (·.name = name)

end PurposeGroup

structure UnknownAdvertisingLevel where
  word : String
deriving DecidableEq

def UnknownAdvertisingLevel.message (e : UnknownAdvertisingLevel) : String :=
  Quoted.quote (.ofString e.word) ++ " is not a valid AdvertisingConsentLevel"

inductive AdvertisingLevel where
  | personalized
  | basicOnly
  | none
deriving DecidableEq

namespace AdvertisingLevel

def name : AdvertisingLevel → String
  | personalized => "personalized"
  | basicOnly => "basic_only"
  | none => "none"

def words : List (String × AdvertisingLevel) :=
  [personalized, basicOnly, none].map fun l => (l.name, l)

def ofName (name : String) : Except UnknownAdvertisingLevel AdvertisingLevel :=
  (words.lookup name).elim (.error ⟨name⟩) .ok

def privilege : AdvertisingLevel → Nat
  | personalized => 2
  | basicOnly => 1
  | none => 0

def atLeast (level other : AdvertisingLevel) : Bool := other.privilege ≤ level.privilege

def graded (personalized basic : Bool) : AdvertisingLevel :=
  if personalized then .personalized else if basic then .basicOnly else .none

end AdvertisingLevel

end ConsentGate
