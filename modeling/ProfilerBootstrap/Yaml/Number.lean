import ProfilerBootstrap.Decimal.Binary
import ProfilerBootstrap.Text.Blank
import ProfilerBootstrap.Text.Digit
import ProfilerBootstrap.Yaml.Error

namespace ProfilerBootstrap.Yaml.Number

/-- A text with its digits and blanks in ASCII; a question mark for what no number has. -/
def plainText (text : List Nat) : List Char :=
  text.map fun n =>
    if n < 127 then Char.ofNat n
    else if Text.isBlankPoint n then ' '
    else match Text.digit? n with
      | some d => Nat.digitChar d
      | none => '?'

def isSpace (c : Char) : Bool := c = ' ' || (9 ≤ c.toNat && c.toNat ≤ 13)

def digitValue (c : Char) : Nat :=
  if c.isDigit then c.toNat - 48
  else if 'a' ≤ c && c ≤ 'z' then c.toNat - 87
  else if 'A' ≤ c && c ≤ 'Z' then c.toNat - 55
  else 36

def splitSign : List Char → Bool × List Char
  | '-' :: rest => (true, rest)
  | '+' :: rest => (false, rest)
  | rest => (false, rest)

def baseLetter : Nat → List Char
  | 2 => ['b', 'B']
  | 8 => ['o', 'O']
  | 16 => ['x', 'X']
  | _ => []

def dropBase (base : Nat) : List Char → List Char
  | '0' :: c :: rest => if (baseLetter base).contains c then rest else '0' :: c :: rest
  | cs => cs

def greatestDigits : Nat := 4300

def whole (base : Nat) (text : List Nat) : Except Unusable Int :=
  let (negative, cs) := splitSign ((plainText text).dropWhile isSpace)
  let cs := dropBase base cs
  let ds := cs.takeWhile (digitValue · < base)
  if base = 10 ∧ greatestDigits < ds.length then .error (.tooManyDigits ds.length)
  else if ds.isEmpty || !(cs.drop ds.length).all isSpace then .error (.integer base text)
  else
    let n : Nat := ds.foldl (fun n c => base * n + digitValue c) 0
    .ok (if negative then -n else n)

def parts (text : List Nat) : List (List Nat) := text.splitOn 58

def split : List Nat → Except Unusable (Bool × List Nat)
  | [] => .error .noDigits
  | 45 :: rest => .ok (true, rest)
  | 43 :: rest => .ok (false, rest)
  | rest => .ok (false, rest)

def unsigned : List Nat → Except Unusable Int
  | [] => .error .noDigits
  | [48] => .ok 0
  | 48 :: 98 :: rest => whole 2 rest
  | 48 :: 120 :: rest => whole 16 rest
  | 48 :: rest => whole 8 (48 :: rest)
  | text =>
    if text.contains 58 then do
      let ds ← (parts text).mapM (whole 10)
      return ds.foldl (fun n d => 60 * n + d) 0
    else whole 10 text

/-- The whole number that a text stands for: binary after `0b`, hexadecimal after `0x`, octal after
any other zero. -/
def int (text : List Nat) : Except Unusable Int := do
  let (negative, text) ← split (text.filter (· ≠ 95))
  let n ← unsigned text
  return if negative then -n else n

def nan : Float := 0.0 / 0.0

def infinity : Float := 1.0 / 0.0

def isWord (cs : List Char) (words : List String) : Bool := words.any (·.toList = cs)

def fraction? (negative : Bool) (cs : List Char) : Option Float :=
  let front := cs.takeWhile Char.isDigit
  let rest := cs.drop front.length
  let back := match rest with
    | '.' :: more => more.takeWhile Char.isDigit
    | _ => []
  let rest := match rest with
    | '.' :: more => more.drop back.length
    | _ => rest
  let value (ds : List Char) : Nat := ds.foldl (fun n c => 10 * n + digitValue c) 0
  let number (exponent : Int) : Float :=
    Decimal.nearest negative (value (front ++ back)) (exponent - back.length)
  if front.isEmpty && back.isEmpty then none
  else match rest with
    | [] => some (number 0)
    | 'e' :: more =>
      let (below, ds) := splitSign more
      if ds.isEmpty || !ds.all Char.isDigit then none
      else some (number (if below then -(value ds : Int) else value ds))
    | _ => none

def float? (text : List Nat) : Option Float :=
  let (negative, cs) := splitSign (Text.trim isSpace (plainText text))
  if isWord cs ["inf", "infinity"] then some (if negative then -infinity else infinity)
  else if isWord cs ["nan"] then some nan
  else fraction? negative cs

def floatPart (text : List Nat) : Except Unusable Float :=
  match float? text with
  | some x => .ok x
  | none => .error (.number text)

/-- Adds up digits of base sixty, the last one first. The power of sixty has to be a double. -/
def addSixties : Float → Int → List Float → Except Unusable Float
  | sum, _, [] => .ok sum
  | sum, base, d :: ds =>
    let b := Decimal.ofInt base
    if b.isInf then .error .baseTooLarge
    else addSixties (sum + d * b) (60 * base) ds

/-- The double that a text stands for; none for the one text `.nan`. -/
def float (text : List Nat) : Except Unusable (Option Float) := do
  let (negative, text) ← split (Case.lower (text.filter (· ≠ 95)))
  let signed (x : Float) : Option Float := some (if negative then -x else x)
  if text = points ".inf" then return signed infinity
  else if text = points ".nan" then return none
  else if text.contains 58 then
    let ds ← (parts text).mapM floatPart
    return signed (← addSixties 0.0 1 ds.reverse)
  else return signed (← floatPart text)

def bool (text : List Nat) : Except Unusable Bool :=
  let word := Case.lower text
  if ["yes", "true", "on"].any (points · = word) then .ok true
  else if ["no", "false", "off"].any (points · = word) then .ok false
  else .error (.bool word)

end ProfilerBootstrap.Yaml.Number
