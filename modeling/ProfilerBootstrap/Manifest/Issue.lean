import ProfilerBootstrap.Decimal.Shortest
import ProfilerBootstrap.Yaml.Value

namespace ProfilerBootstrap.Manifest

open Yaml (Value)

def wordLimit : Nat := 0x8000000000000000

/-- One step of the way to a place in the manifest. -/
inductive Step
  | index (n : Int)
  | name (s : String)
  deriving DecidableEq, Repr

namespace Step

def byteText (quote : Nat) (b : UInt8) : String :=
  let n := b.toNat
  if n = quote ∨ n = 92 then String.ofList ['\\', Char.ofNat n]
  else if n = 9 then "\\t"
  else if n = 10 then "\\n"
  else if n = 13 then "\\r"
  else if 32 ≤ n ∧ n < 127 then String.singleton (Char.ofNat n)
  else "\\x" ++ Text.hex 2 n

def bytesText (bs : List UInt8) : String :=
  let quote := Text.Quoted.quoteFor (bs.map (·.toNat))
  let q := String.singleton (Char.ofNat quote)
  "b" ++ q ++ String.join (bs.map (byteText quote)) ++ q

def zoneText (z : Int) : String :=
  if z = 0 then "datetime.timezone.utc"
  else
    let span := Yaml.spanText (z.fdiv Yaml.Timestamp.dayMinutes)
      (z.fmod Yaml.Timestamp.dayMinutes * 60).toNat
    s!"datetime.timezone({span})"

/-- Seconds and microseconds are left out where they and what follows are zero. -/
def timeText (t : Yaml.Timestamp) : String :=
  let d := t.date
  let small :=
    if t.micro ≠ 0 then [t.second, t.micro] else if t.second ≠ 0 then [t.second] else []
  let numbers := [d.year, d.month, d.day, t.hour, t.minute] ++ small
  let zone := (t.zone.map fun z => "tzinfo=" ++ zoneText z).toList
  let inner := String.intercalate ", " (numbers.map toString ++ zone)
  s!"datetime.datetime({inner})"

/-- A whole number of more digits is not written out. -/
def greatestDigits : Nat := 4300

def intText (n : Int) : String :=
  let ds := toString n
  if greatestDigits < (Nat.toDigits 10 n.natAbs).length then "<unprintable int object>" else ds

def ofWhole (n : Int) : Step :=
  if -(wordLimit : Int) ≤ n ∧ n < wordLimit then .index n else .name (intText n)

/-- The step to the entry of a key that is no text: a whole number of 64 bits counts as an index,
any other key is written out. -/
def ofKey : Value → Step
  | .bool b => .index (if b then 1 else 0)
  | .int n => ofWhole n
  | .float x => .name (Decimal.layout.text x)
  | .nan _ => .name "nan"
  | .bytes bs => .name (bytesText bs)
  | .date d => .name s!"datetime.date({d.year}, {d.month}, {d.day})"
  | .time t => .name (timeText t)
  | .str text => .name (ofPoints text)
  | .null | .pair .. | .ref _ => .name "None"

end Step

inductive Fault
  | notList
  | notModel (model : String)
  | missing
  | notText
  | brokenText
  | notInteger
  | unreadableInteger
  | hugeInteger
  | fraction
  | notFinite
  | negative
  | tooLarge
  | unknownAction
  | keyNotText
  deriving DecidableEq, Repr

def maxVersionPart : Nat := 65535

namespace Fault

def code : Fault → String
  | notList => "list_type"
  | notModel _ => "model_type"
  | missing => "missing"
  | notText => "string_type"
  | brokenText => "string_unicode"
  | notInteger => "int_type"
  | unreadableInteger => "int_parsing"
  | hugeInteger => "int_parsing_size"
  | fraction => "int_from_float"
  | notFinite => "finite_number"
  | negative => "greater_than_equal"
  | tooLarge => "less_than_equal"
  | unknownAction => "enum"
  | keyNotText => "invalid_key"

def message : Fault → String
  | notList => "Input should be a valid list"
  | notModel m => s!"Input should be a valid dictionary or instance of {m}"
  | missing => "Field required"
  | notText => "Input should be a valid string"
  | brokenText =>
    "Input should be a valid string, unable to parse raw data as a unicode string"
  | notInteger => "Input should be a valid integer"
  | unreadableInteger =>
    "Input should be a valid integer, unable to parse string as an integer"
  | hugeInteger => "Unable to parse input string as an integer, exceeded maximum size"
  | fraction => "Input should be a valid integer, got a number with a fractional part"
  | notFinite => "Input should be a finite number"
  | negative => "Input should be greater than or equal to 0"
  | tooLarge => s!"Input should be less than or equal to {maxVersionPart}"
  | unknownAction =>
    "Input should be 'CallTargetModification', 'ReplaceTargetMethod', 'InsertFirst' or 'None'"
  | keyNotText => "Keys should be strings"

end Fault

structure Issue where
  place : List Step
  fault : Fault
  deriving DecidableEq, Repr

def headline (model : String) (issues : List Issue) : String :=
  let noun := if issues.length = 1 then "error" else "errors"
  s!"{issues.length} validation {noun} for list[{model}]"

end ProfilerBootstrap.Manifest
