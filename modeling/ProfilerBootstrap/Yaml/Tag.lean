import ProfilerBootstrap.Text.Case

namespace ProfilerBootstrap.Yaml

inductive Tag
  | null
  | bool
  | int
  | float
  | binary
  | timestamp
  | orderedMap
  | pairs
  | set
  | str
  | seq
  | map
  | merge
  | value
  | other (text : String)
  deriving DecidableEq, Repr

namespace Tag

def standard (name : String) : String := "tag:yaml.org,2002:" ++ name

def names : List (Tag × String) :=
  [(null, "null"), (bool, "bool"), (int, "int"), (float, "float"), (binary, "binary"),
    (timestamp, "timestamp"), (orderedMap, "omap"), (pairs, "pairs"), (set, "set"), (str, "str"),
    (seq, "seq"), (map, "map"), (merge, "merge"), (value, "value")]

def ofText (text : String) : Tag :=
  match names.find? (standard ·.2 = text) with
  | some (t, _) => t
  | none => other text

def text : Tag → String
  | other text => text
  | t => standard ((names.lookup t).getD "")

end Tag

namespace Form

/-- All ways to read the beginning of a text, each by the rest that it leaves. -/
abbrev Pattern := List Char → List (List Char)

def char (p : Char → Bool) : Pattern
  | c :: rest => if p c then [rest] else []
  | [] => []

def one (c : Char) : Pattern := char (· = c)

def word (s : String) : Pattern := fun cs =>
  if s.toList.isPrefixOf cs then [cs.drop s.length] else []

def all (ps : List Pattern) : Pattern := fun cs => ps.foldl (fun rests p => rests.flatMap p) [cs]

def any (ps : List Pattern) : Pattern := fun cs => ps.flatMap (· cs)

def optional (p : Pattern) : Pattern := fun cs => cs :: p cs

/-- The longest run of a class. No pattern here goes on with a character of the class. -/
def many (p : Char → Bool) : Pattern := fun cs => [cs.dropWhile p]

def many1 (p : Char → Bool) : Pattern := all [char p, many p]

def repeated (p : Pattern) : Nat → Pattern
  | 0, cs => [cs]
  | n + 1, cs => cs :: (p cs).flatMap (repeated p n)

/-- The whole text has the form; a line feed at its end does not count. -/
def fits (p : Pattern) (cs : List Char) : Bool := (p cs).any fun r => r = [] || r = ['\n']

def digit (c : Char) : Bool := c.isDigit

def digits : Pattern := many fun c => c.isDigit || c = '_'

def sign : Pattern := optional (char fun c => c = '-' || c = '+')

def sixties (cs : List Char) : List (List Char) :=
  let round := all [one ':', optional (char fun c => '0' ≤ c && c ≤ '5'), char digit]
  all [round, repeated round cs.length] cs

def exponent : Pattern :=
  optional (all [char fun c => c = 'e' || c = 'E', char fun c => c = '-' || c = '+', many1 digit])

def words (ws : List String) : Pattern := any (ws.map word)

def bool : Pattern :=
  words ["yes", "Yes", "YES", "no", "No", "NO", "true", "True", "TRUE", "false", "False", "FALSE",
    "on", "On", "ON", "off", "Off", "OFF"]

def float : Pattern :=
  any [
    all [sign, char digit, digits, one '.', digits, exponent],
    all [one '.', char digit, digits, exponent],
    all [sign, char digit, digits, sixties, one '.', digits],
    all [sign, one '.', words ["inf", "Inf", "INF"]],
    all [one '.', words ["nan", "NaN", "NAN"]]]

def isHex (c : Char) : Bool :=
  c.isDigit || ('a' ≤ c && c ≤ 'f') || ('A' ≤ c && c ≤ 'F') || c = '_'

def int : Pattern :=
  all [sign, any [
    all [word "0b", many1 fun c => c = '0' || c = '1' || c = '_'],
    all [one '0', many1 fun c => ('0' ≤ c && c ≤ '7') || c = '_'],
    one '0',
    all [char fun c => '1' ≤ c && c ≤ '9', digits],
    all [word "0x", many1 isHex],
    all [char fun c => '1' ≤ c && c ≤ '9', digits, sixties]]]

def isGap (c : Char) : Bool := c = ' ' || c = '\t'

def twoDigits : Pattern := all [char digit, char digit]

def oneOrTwoDigits : Pattern := all [char digit, optional (char digit)]

def year : Pattern := all [twoDigits, twoDigits]

def zone : Pattern :=
  optional <| all [many isGap, any [
    one 'Z',
    all [char fun c => c = '-' || c = '+', oneOrTwoDigits, optional (all [one ':', twoDigits])]]]

def timestamp : Pattern :=
  any [
    all [year, one '-', twoDigits, one '-', twoDigits],
    all [year, one '-', oneOrTwoDigits, one '-', oneOrTwoDigits,
      any [char fun c => c = 'T' || c = 't', many1 isGap],
      oneOrTwoDigits, one ':', twoDigits, one ':', twoDigits,
      optional (all [one '.', many digit]), zone]]

end Form

/-- The forms of plain scalars, in the order in which they are tried. -/
def plainForms : List (Form.Pattern × Tag) :=
  [(Form.bool, .bool), (Form.float, .float), (Form.int, .int), (Form.word "<<", .merge),
    (Form.words ["~", "null", "Null", "NULL"], .null), (Form.timestamp, .timestamp),
    (Form.word "=", .value), (Form.words ["!", "&", "*"], .other (Tag.standard "yaml"))]

def Tag.ofPlain (text : List Nat) : Tag :=
  if text.isEmpty then .null
  else
    let cs := text.map Char.ofNat
    ((plainForms.find? (Form.fits ·.1 cs)).map (·.2)).getD .str

end ProfilerBootstrap.Yaml
