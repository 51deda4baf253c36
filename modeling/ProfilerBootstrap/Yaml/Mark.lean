namespace ProfilerBootstrap.Yaml

/-- A place: the characters before it, the lines before it, the characters before it in its line. -/
structure Mark where
  index : Nat
  line : Nat
  column : Nat
  deriving DecidableEq, Repr, Inhabited

def Mark.start : Mark := ⟨0, 0, 0⟩

/-- The end of a document reads as this character, which no document may hold. -/
def endChar : Char := '\x00'

def isLineBreak (c : Char) : Bool :=
  c = '\n' || c = '\r' || c = '\x85' || c = '\u2028' || c = '\u2029'

def endsLine (c : Char) : Bool := c = endChar || isLineBreak c

def endsWord (c : Char) : Bool := c = ' ' || endsLine c

def endsItem (c : Char) : Bool := c = '\t' || endsWord c

/-- The place after a character; a carriage return ends its line unless a line feed follows. -/
def Mark.after (m : Mark) (c next : Char) : Mark :=
  if c = '\n' || c = '\x85' || c = '\u2028' || c = '\u2029' || (c = '\r' && next ≠ '\n') then
    ⟨m.index + 1, m.line + 1, 0⟩
  else if c = '\uFEFF' then ⟨m.index + 1, m.line, m.column⟩
  else ⟨m.index + 1, m.line, m.column + 1⟩

def Mark.message (path : String) (m : Mark) : String :=
  s!"  in \"{path}\", line {m.line + 1}, column {m.column + 1}"

def isWordChar (c : Char) : Bool := c.isAlphanum || c = '-' || c = '_'

def isHexDigit (c : Char) : Bool :=
  c.isDigit || ('a' ≤ c && c ≤ 'f') || ('A' ≤ c && c ≤ 'F')

def hexValue (cs : List Char) : Nat :=
  cs.foldl (fun n c =>
    16 * n + (if c.isDigit then c.toNat - 48 else if c ≤ 'F' then c.toNat - 55 else c.toNat - 87)) 0

end ProfilerBootstrap.Yaml
