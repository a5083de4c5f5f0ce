import ConsentGate.Json.Basic

namespace ConsentGate.Schema

inductive Fault where
  | notString
  | brokenString
  | notInt
  | unreadableInt
  | oversizedInt
  | fractionalInt
  | infiniteNumber
  | notBool
  | unreadableBool
  | notAbove (bound : Int)
  | below (bound : Int)
  | missing
  | notRecord (name : String)
  | notMap
  | notList
  | notSet
  | notMember (options : List String)
  | notLiteral (options : List String)
  | notMoment
  | unreadableMoment
  | unreadableDate
  | frozen
  | rejected (reason : String)
deriving DecidableEq

inductive Step where
  | field (name : String)
  | index (i : Nat)
  | entry (k : Json)
  | entryKey

structure Issue where
  fault : Fault
  path : List Step

namespace Fault

def code : Fault → String
  | notString => "string_type"
  | brokenString => "string_unicode"
  | notInt => "int_type"
  | unreadableInt => "int_parsing"
  | oversizedInt => "int_parsing_size"
  | fractionalInt => "int_from_float"
  | infiniteNumber => "finite_number"
  | notBool => "bool_type"
  | unreadableBool => "bool_parsing"
  | notAbove _ => "greater_than"
  | below _ => "greater_than_equal"
  | missing => "missing"
  | notRecord _ => "model_type"
  | notMap => "dict_type"
  | notList => "list_type"
  | notSet => "frozen_set_type"
  | notMember _ => "enum"
  | notLiteral _ => "literal_error"
  | notMoment => "datetime_type"
  | unreadableMoment => "datetime_parsing"
  | unreadableDate => "datetime_from_date_parsing"
  | frozen => "frozen_instance"
  | rejected _ => "value_error"

def alternatives (options : List String) : String :=
  match (options.map fun o => "'" ++ o ++ "'").reverse with
  | [] => ""
  | [o] => o
  | last :: others => ", ".intercalate others.reverse ++ " or " ++ last

def message : Fault → String
  | notString => "Input should be a valid string"
  | brokenString => "Input should be a valid string, unable to parse raw data as a unicode string"
  | notInt => "Input should be a valid integer"
  | unreadableInt => "Input should be a valid integer, unable to parse string as an integer"
  | oversizedInt => "Unable to parse input string as an integer, exceeded maximum size"
  | fractionalInt => "Input should be a valid integer, got a number with a fractional part"
  | infiniteNumber => "Input should be a finite number"
  | notBool => "Input should be a valid boolean"
  | unreadableBool => "Input should be a valid boolean, unable to interpret input"
  | notAbove bound => s!"Input should be greater than {bound}"
  | below bound => s!"Input should be greater than or equal to {bound}"
  | missing => "Field required"
  | notRecord name => "Input should be a valid dictionary or instance of " ++ name
  | notMap => "Input should be a valid dictionary"
  | notList => "Input should be a valid list"
  | notSet => "Input should be a valid frozenset"
  | notMember options | notLiteral options => "Input should be " ++ alternatives options
  | notMoment => "Input should be a valid datetime"
  | unreadableMoment => "Input should be a valid datetime"
  | unreadableDate => "Input should be a valid datetime or date"
  | frozen => "Instance is frozen"
  | rejected reason => "Value error, " ++ reason

end Fault

def Step.toJson : Step → Json
  | field name => .string name
  | index i => .int i
  | entry k => k
  | entryKey => .string "[key]"

def Step.text : Step → String
  | field name => name
  | index i => toString i
  | entry (.string s) => s
  | entry (.int n) => toString n
  | entry _ => ""
  | entryKey => "[key]"

def Issue.place (i : Issue) : String := ".".intercalate (i.path.map Step.text)

end ConsentGate.Schema
