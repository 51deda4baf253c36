import ProfilerBootstrap.Text.Blank
import ProfilerBootstrap.Text.Case

namespace ProfilerBootstrap.Dotenv

/-- An entry of a file of variables: a key with a value or without one. -/
structure Entry where
  key : String
  value : Option String
  deriving DecidableEq, Repr

/-- The entries of a file, and the numbers of the lines where an unreadable one begins. -/
structure Contents where
  entries : List Entry
  badLines : List Nat
  deriving DecidableEq, Repr

def isGap (c : Char) : Bool := Text.isBlank c && c ≠ '\n' && c ≠ '\r'

/-- Reads on from the characters that are left; a failure leaves off where it occurred. -/
abbrev Reader := ExceptT Unit (StateM (List Char))

namespace Reader

def fail : Reader α := throw ()

def peek : Reader (Option Char) := do return (← get).head?

def takeWhile (p : Char → Bool) : Reader (List Char) := do
  let cs ← get
  set (cs.dropWhile p)
  return cs.takeWhile p

def gap : Reader (List Char) := takeWhile isGap

def exportWord : Reader Unit := do
  let cs ← get
  if "export".toList.isPrefixOf cs then
    let rest := cs.drop 6
    if (rest.head?.map isGap).getD false then set (rest.dropWhile isGap)

/-- A key between single quotes, or up to an equals sign, a comment or a blank. A comment has no
key. -/
def key : Reader (Option String) := do
  let cs ← get
  match cs with
  | '#' :: _ => return none
  | '\'' :: rest =>
    let k := rest.takeWhile (· ≠ '\'')
    if k.isEmpty || k.length = rest.length then fail
    set (rest.drop (k.length + 1))
    return some (String.ofList k)
  | _ =>
    let k ← takeWhile fun c => !(c = '=' || c = '#' || Text.isBlank c)
    if k.isEmpty then fail
    return some (String.ofList k)

/-- The text up to a closing quote and what follows it; a backslash takes the next character
along. -/
def untilQuote (quote : Char) : List Char → Option (List Char × List Char)
  | [] => none
  | '\\' :: c :: rest => (untilQuote quote rest).map fun (v, r) => ('\\' :: c :: v, r)
  | c :: rest =>
    if c = quote then some ([], rest)
    else if c = '\\' then none
    else (untilQuote quote rest).map fun (v, r) => (c :: v, r)

def singleEscapes : List (Char × Char) := [('\\', '\\'), ('\'', '\'')]

def doubleEscapes : List (Char × Char) :=
  singleEscapes ++
    [('"', '"'), ('a', '\x07'), ('b', '\x08'), ('f', '\x0c'), ('n', '\n'), ('r', '\r'),
      ('t', '\t'), ('v', '\x0b')]

def unescape (table : List (Char × Char)) : List Char → List Char
  | '\\' :: c :: rest =>
    match table.lookup c with
    | some d => d :: unescape table rest
    | none => '\\' :: unescape table (c :: rest)
  | c :: rest => c :: unescape table rest
  | [] => []

def quoted (quote : Char) (table : List (Char × Char)) (rest : List Char) : Reader String := do
  match untilQuote quote rest with
  | none => fail
  | some (v, rest) =>
    set rest
    return String.ofList (unescape table v)

/-- The text without a comment, which is set off by a blank. -/
def dropComment : List Char → List Char
  | [] => []
  | c :: rest =>
    if Text.isBlank c && (rest.dropWhile Text.isBlank).head? = some '#' then []
    else c :: dropComment rest

def value : Reader String := do
  let before ← gap
  let cs ← get
  match cs with
  | [] => return ""
  | '\n' :: _ => return ""
  | '\'' :: rest => quoted '\'' singleEscapes rest
  | '"' :: rest => quoted '"' doubleEscapes rest
  | c :: _ =>
    if c = '#' && !before.isEmpty then return ""
    else
      let line ← takeWhile fun c => c ≠ '\n' && c ≠ '\r'
      return String.ofList (Text.dropEnd Text.isBlank (dropComment line))

def lineEnd : Reader Unit := do
  discard gap
  if (← peek) = some '#' then discard <| takeWhile fun c => c ≠ '\n' && c ≠ '\r'
  match ← get with
  | [] => return ()
  | c :: rest => if c = '\n' then set rest else fail

def entry : Reader (Option Entry) := do
  exportWord
  let k ← key
  discard gap
  let v ← if (← peek) = some '=' then do
      modify (·.drop 1)
      let v ← value
      pure (some v)
    else pure none
  lineEnd
  return k.map fun k => ⟨k, v⟩

end Reader

def lines (cs : List Char) : Nat := cs.count '\n'

/-- The entries of a text, of which `line` is the number of the first line. Every round takes a
character. -/
def readFrom : Nat → Nat → List Char → Contents
  | 0, _, _ => ⟨[], []⟩
  | n + 1, line, cs =>
    match cs.dropWhile Text.isBlank with
    | [] => ⟨[], []⟩
    | c :: start =>
      let (found, rest) := (Reader.entry.run).run (c :: start)
      let rest := match found with
        | .ok _ => rest
        | .error _ => (rest.dropWhile fun c => c ≠ '\n' && c ≠ '\r').drop 1
      let more := readFrom n (line + lines (cs.take (cs.length - rest.length))) rest
      match found with
      | .ok none => more
      | .ok (some e) => { more with entries := e :: more.entries }
      | .error _ => { more with badLines := line :: more.badLines }

def normalLines : List Char → List Char
  | '\r' :: '\n' :: rest => '\n' :: normalLines rest
  | '\r' :: rest => '\n' :: normalLines rest
  | c :: rest => c :: normalLines rest
  | [] => []

/-- The contents of a file. A byte order mark in front is dropped. -/
def read (cs : List Char) : Contents :=
  let cs := normalLines cs
  let cs := if cs.head? = some '\uFEFF' then cs.drop 1 else cs
  readFrom (cs.length + 1) 1 cs

end ProfilerBootstrap.Dotenv
