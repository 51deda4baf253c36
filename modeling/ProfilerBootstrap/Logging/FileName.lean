import ProfilerBootstrap.Text.Digit
import ProfilerBootstrap.Text.Quoted

namespace ProfilerBootstrap.FileName

inductive Fault
  | loneClose
  | loneOpen
  | unclosedField
  | braceInField
  | noConversion
  | noColon
  | unclosedFormat
  | manyDigits
  | positional
  | unknownField (name : List Char)
  | emptyPart
  | noPart
  | unknownConversion (c : Char)
  | tooDeep
  /-- What the time refuses. -/
  | time (problem : String)
  deriving DecidableEq, Repr

def conversionText (c : Char) : String :=
  if 32 < c.toNat && c.toNat < 127 then c.toString else "\\x" ++ Text.hex 1 c.toNat

def Fault.message : Fault → String
  | .loneClose => "Single '\x7d' encountered in format string"
  | .loneOpen => "Single '\x7b' encountered in format string"
  | .unclosedField => "expected '\x7d' before end of string"
  | .braceInField => "unexpected '\x7b' in field name"
  | .noConversion => "end of string while looking for conversion specifier"
  | .noColon => "expected ':' after conversion specifier"
  | .unclosedFormat => "unmatched '\x7b' in format spec"
  | .manyDigits => "Too many decimal digits in format string"
  | .positional => "Format string contains positional fields"
  | .unknownField name => Text.quote (String.ofList name)
  | .emptyPart => "Empty attribute in format string"
  | .noPart => "Only '.' or '[' may follow ']' in format field specifier"
  | .unknownConversion c => s!"Unknown conversion specifier {conversionText c}"
  | .tooDeep => "Max string recursion exceeded"
  | .time problem => problem

/-- A field, with the character after an exclamation mark and the text after a colon. -/
structure Field where
  name : List Char
  conversion : Option Char
  format : List Char
  deriving DecidableEq, Repr

inductive Piece
  | char (c : Char)
  | field (f : Field)
  deriving DecidableEq, Repr

def openBrace : Char := '\x7b'

def closeBrace : Char := '\x7d'

/-- Where reading is: outside of fields, or in one of the parts of a field. What has been read of
the part is in reverse. -/
inductive State
  | text
  | opened
  | closed
  | name (read : List Char)
  | brackets (read : List Char)
  | conversion (field : List Char)
  | afterConversion (field : List Char) (sign : Option Char)
  | format (field : List Char) (sign : Option Char) (read : List Char) (depth : Nat)
  deriving DecidableEq, Repr

def State.atEnd : State → Option Fault
  | .text => none
  | .opened => some .loneOpen
  | .closed => some .loneClose
  | .name _ | .brackets _ => some .unclosedField
  | .conversion _ => some .noConversion
  | .afterConversion .. | .format .. => some .unclosedFormat

abbrev Progress := Except Fault (State × Option Piece)

def State.inName (read : List Char) (c : Char) : Progress :=
  if c = openBrace then .error .braceInField
  else if c = '[' then .ok (.brackets (c :: read), none)
  else if c = closeBrace then .ok (.text, some (.field ⟨read.reverse, none, []⟩))
  else if c = ':' then .ok (.format read.reverse none [] 1, none)
  else if c = '!' then .ok (.conversion read.reverse, none)
  else .ok (.name (c :: read), none)

/-- Braces in the format of a field are counted; the one that closes the field is not part of it. -/
def State.inFormat (field : List Char) (sign : Option Char) (read : List Char) (depth : Nat)
    (c : Char) : Progress :=
  if c = openBrace then .ok (.format field sign (c :: read) (depth + 1), none)
  else if c ≠ closeBrace then .ok (.format field sign (c :: read) depth, none)
  else if depth = 1 then .ok (.text, some (.field ⟨field, sign, read.reverse⟩))
  else .ok (.format field sign (c :: read) (depth - 1), none)

def State.next (s : State) (c : Char) : Progress :=
  match s with
  | .text =>
    if c = openBrace then .ok (.opened, none)
    else if c = closeBrace then .ok (.closed, none)
    else .ok (.text, some (.char c))
  | .opened => if c = openBrace then .ok (.text, some (.char c)) else State.inName [] c
  | .closed => if c = closeBrace then .ok (.text, some (.char c)) else .error .loneClose
  | .name read => State.inName read c
  | .brackets read => .ok (if c = ']' then .name (c :: read) else .brackets (c :: read), none)
  -- a null character stands for no conversion
  | .conversion field => .ok (.afterConversion field (if c = '\x00' then none else some c), none)
  | .afterConversion field sign =>
    if c = closeBrace then .ok (.text, some (.field ⟨field, sign, []⟩))
    else if c = ':' then .ok (.format field sign [] 1, none)
    else .error .noColon
  | .format field sign read depth => State.inFormat field sign read depth c

/-- The texts of the pieces one after the other; a piece gets its text as soon as it is complete. -/
def renderFrom (render : Piece → Except Fault (List Char)) :
    State → List Char → Except Fault (List Char)
  | s, [] => match s.atEnd with
    | none => .ok []
    | some f => .error f
  | s, c :: rest => do
    let (s, p) ← s.next c
    let shown ← match p with
      | none => .ok []
      | some p => render p
    return shown ++ (← renderFrom render s rest)

/-- Reads on after the digits of a number, which has to stay less than 2^63. -/
def numberFrom (n : Nat) : List Char → Except Fault (Option Nat)
  | [] => .ok (some n)
  | c :: rest =>
    match Text.digit? c.toNat with
    | none => .ok none
    | some d =>
      if 10 * n + d < 0x8000000000000000 then numberFrom (10 * n + d) rest else .error .manyDigits

def number? (name : List Char) : Except Fault (Option Nat) :=
  if name = [] then .ok none else numberFrom 0 name

/-- What a field asks for of a value: a part by its name, or by a key in brackets. -/
inductive Part
  | attribute (name : List Char)
  | item (key : List Char)
  deriving DecidableEq, Repr

/-- A moment as the fields of a name see it. Parts of it, conversions and formats are its own
matter; it tells what is wrong with the last one of the parts that a field asks for, each of them a
part of the one before, what is wrong with a conversion, and how a part is shown in a format. -/
structure Time where
  partFault? : List Part → Option String
  conversionFault? : List Part → Char → Option String
  shown : List Part → Option Char → List Char → Except String (List Char)

def beginsPart (c : Char) : Bool := c = '.' || c = '['

def Part.ofName (name : List Char) : Except Fault Part :=
  if name = [] then .error .emptyPart else .ok (.attribute name)

def Part.ofKey (key : List Char) : Except Fault Part :=
  if key = [] then .error .emptyPart else (number? key).map fun _ => .item key

def Part.read : List Char → Except Fault Part × List Char
  | '.' :: rest => (ofName (rest.takeWhile (!beginsPart ·)), rest.dropWhile (!beginsPart ·))
  | '[' :: rest => (ofKey (rest.takeWhile (· ≠ ']')), (rest.dropWhile (· ≠ ']')).drop 1)
  | _ => (.error .noPart, [])

theorem Part.length_read {cs : List Char} (h : cs ≠ []) : (read cs).2.length < cs.length := by
  have hdrop (q : Char → Bool) (l : List Char) : (l.dropWhile q).length ≤ l.length :=
    (List.dropWhile_sublist q).length_le
  unfold read
  split
  · exact Nat.lt_succ_of_le (hdrop _ _)
  · rename_i rest
    have := hdrop (· ≠ ']') rest
    simp only [List.length_drop, List.length_cons]
    omega
  · exact List.length_pos_iff.2 h

/-- The parts that a text asks for. The time is asked for each one before the next is read. -/
def Time.parts (t : Time) (before : List Part) (cs : List Char) : Except Fault (List Part) :=
  if _h : cs = [] then .ok before
  else match (Part.read cs).1 with
    | .error f => .error f
    | .ok p =>
      match t.partFault? (before ++ [p]) with
      | some problem => .error (.time problem)
      | none => t.parts (before ++ [p]) (Part.read cs).2
termination_by cs.length
decreasing_by exact Part.length_read _h

def Time.checkConversion (t : Time) (parts : List Part) : Option Char → Except Fault Unit
  | none => .ok ()
  | some c =>
    if c = 'r' || c = 's' || c = 'a' then
      match t.conversionFault? parts c with
      | some problem => .error (.time problem)
      | none => .ok ()
    else .error (.unknownConversion c)

/-- The parts of the time that a field asks for; it can ask for nothing but the time. -/
def Field.partsOf (t : Time) (f : Field) : Except Fault (List Part) := do
  let name := f.name.takeWhile (!beginsPart ·)
  if name.isEmpty || (← number? name).isSome then throw .positional
  if name ≠ ['t', 'i', 'm', 'e'] then throw (.unknownField name)
  let parts ← t.parts [] (f.name.dropWhile (!beginsPart ·))
  t.checkConversion parts f.conversion
  return parts

/-- A text with the time in place of its fields, which may be nested up to a depth. -/
def expandAt (t : Time) : Nat → List Char → Except Fault (List Char)
  | 0, _ => .error .tooDeep
  | depth + 1, cs =>
    renderFrom (fun
      | .char c => .ok [c]
      | .field f => do
        let parts ← f.partsOf t
        let format ← if f.format.contains openBrace then expandAt t depth f.format else .ok f.format
        (t.shown parts f.conversion format).mapError .time) .text cs

/-- The name of the file at a time. All of it is read before any field gets its value. -/
def expand (t : Time) (cs : List Char) : Except Fault (List Char) := do
  discard (renderFrom (fun _ => .ok []) .text cs)
  expandAt t 2 cs

end ProfilerBootstrap.FileName
