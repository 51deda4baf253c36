import ProfilerBootstrap.Manifest.Issue

namespace ProfilerBootstrap.Manifest.Integer

def isBlank (c : Char) : Bool :=
  Text.isBlank c && !(28 ≤ c.toNat && c.toNat ≤ 31)

def greatestLength : Nat := 4300

def valueOf (ds : List Char) : Nat := ds.foldl (fun n c => 10 * n + (c.toNat - 48)) 0

/-- The number of a text in its one strict form: no blank, no plus sign, no zero in front of other
digits. Too many digits are a fault whatever comes after them; the minus sign of a number counts as
one more. -/
def strict (cs : List Char) : Except Fault Int :=
  let (negative, ds) := match cs with
    | '-' :: rest => (true, rest)
    | _ => (false, cs)
  let digits := ds.takeWhile Char.isDigit
  match digits with
  | [] => .error .unreadableInteger
  | '0' :: _ => if ds = ['0'] then .ok 0 else .error .unreadableInteger
  | _ =>
    if greatestLength < digits.length then .error .hugeInteger
    else if digits.length < ds.length then .error .unreadableInteger
    else if greatestLength < cs.length then .error .hugeInteger
    else .ok (if negative then -(valueOf digits : Int) else valueOf digits)

/-- Drops zeros and underscores after a first zero, up to another digit or a minus sign; the last
zero stays where nothing or a point follows. The second argument is the character before. -/
def dropZerosFrom : List Char → Char → Option (List Char)
  | [], before => some [before]
  | c :: rest, before =>
    if c = '0' || c = '_' then dropZerosFrom rest c
    else if c.isDigit || c = '-' then some (c :: rest)
    else if c = '.' then some (before :: c :: rest)
    else none

def dropZeros : List Char → Option (List Char)
  | [] => none
  | c :: rest =>
    if c = '0' then dropZerosFrom rest c
    else if c.isDigit then some (c :: rest)
    else none

/-- Drops a point that only zeros follow, one at least. -/
def dropFraction (cs : List Char) : List Char :=
  let whole := cs.takeWhile (· ≠ '.')
  match cs.drop whole.length with
  | '.' :: '0' :: zeros => if zeros.all (· = '0') then whole else cs
  | _ => cs

def hasDouble (x : Char) : List Char → Bool
  | c :: d :: rest => (c = x && d = x) || hasDouble x (d :: rest)
  | _ => false

/-- Drops underscores, where each stands alone between two other characters. -/
def dropUnderscores (cs : List Char) : List Char :=
  if cs.head? = some '_' || cs.getLast? = some '_' || hasDouble '_' cs then cs
  else cs.filter (· ≠ '_')

def cleanUnsigned (cs : List Char) : Option (List Char) :=
  (dropZeros cs).map fun rest => dropUnderscores (dropFraction rest)

/-- The strict form of a text. A sign in front is put aside while the rest is cleaned; a minus sign
may also follow zeros. -/
def clean (cs : List Char) : Option (List Char) :=
  match Text.trim isBlank cs with
  | '+' :: rest => cleanUnsigned rest
  | '-' :: rest => (cleanUnsigned rest).map ('-' :: ·)
  | rest => cleanUnsigned rest

/-- A text that is not strict is read in its strict form. Only a text as it stands can be too long;
one whose strict form is too long is unreadable. -/
def ofText (cs : List Char) : Except Fault Int :=
  match strict cs, (clean cs).map strict with
  | .ok n, _ => .ok n
  | .error .hugeInteger, _ => .error .hugeInteger
  | .error _, some (.ok n) => .ok n
  | .error _, _ => .error .unreadableInteger

/-- A double counts as the whole number that it is, if it is less than 2^63 in size. -/
def ofFloat (x : Float) : Except Fault Int :=
  if !x.isFinite then .error .notFinite
  else match Decimal.whole? x with
    | none => .error .fraction
    | some n => if n.natAbs < wordLimit then .ok n else .error .hugeInteger

def ofValue : Yaml.Value → Except Fault Int
  | .bool b => .ok (if b then 1 else 0)
  | .int n => .ok n
  | .float x => ofFloat x
  | .nan _ => .error .notFinite
  | .str text =>
    if text.any fun n => 0xD800 ≤ n && n ≤ 0xDFFF then .error .brokenText
    else ofText (text.map Char.ofNat)
  | .bytes bs =>
    match Decoding.decode .utf8 bs with
    | .ok cs => ofText cs
    | .error _ => .error .unreadableInteger
  | _ => .error .notInteger

end ProfilerBootstrap.Manifest.Integer
