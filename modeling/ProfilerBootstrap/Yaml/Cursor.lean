import ProfilerBootstrap.Yaml.Error

namespace ProfilerBootstrap.Yaml

/-- A place in a document that is read from left to right. What was decoded so far can be looked at;
a look or a step beyond that meets the fault that stopped the decoding. -/
structure Cursor where
  rest : List Char
  mark : Mark
  error : Option Error
  /-- More than the characters of the document, and so than the rounds of any loop that takes one
  in each round. -/
  limit : Nat

abbrev Scan := StateT Cursor (Except Error)

namespace Scan

def mark : Scan Mark := do return (← get).mark

def atEnd (a : α) : Scan α := do
  match (← get).error with
  | some e => throw e
  | none => return a

def peekAt (n : Nat) : Scan Char := do
  match (← get).rest.drop n with
  | c :: _ => return c
  | [] => atEnd endChar

def peek : Scan Char := peekAt 0

def fail (context : Option Context) (start : Option Mark) (p : TokenProblem) : Scan α := do
  throw (.marked context start (.token p) (← mark))

/-- Goes on by one character; the one after it has to be readable. -/
def skip : Scan Unit := do
  match (← get).rest with
  | [] => atEnd ()
  | c :: rest =>
    let next ← match rest with
      | d :: _ => pure d
      | [] => atEnd endChar
    modify fun s => { s with rest := rest, mark := s.mark.after c next }

def skipMany : Nat → Scan Unit
  | 0 => return ()
  | n + 1 => do skip; skipMany n

/-- Goes past a run of characters, each of which passes the test together with the one after it. -/
def runFrom (p : Char → Char → Bool) : List Char → List Char → Mark → List Char × List Char × Mark
  | taken, [], m => (taken.reverse, [], m)
  | taken, c :: rest, m =>
    let next := rest.headD endChar
    if p c next then runFrom p (c :: taken) rest (m.after c next) else (taken.reverse, c :: rest, m)

def run2 (p : Char → Char → Bool) : Scan (List Char) := do
  let s ← get
  let (taken, rest, m) := runFrom p [] s.rest s.mark
  if rest.isEmpty then atEnd ()
  set { s with rest := rest, mark := m }
  return taken

def run (p : Char → Bool) : Scan (List Char) := run2 fun c _ => p c

def take (n : Nat) : Scan (List Char) := do
  let cs := (← get).rest.take n
  skipMany n
  return cs

def roundsFrom (step : σ → Scan (Bool × σ)) : Nat → σ → Scan σ
  | 0, s => return s
  | n + 1, s => do
    let (again, s) ← step s
    if again then roundsFrom step n s else return s

/-- Goes round for as long as a step asks for it; each round takes a character. -/
def rounds (step : σ → Scan (Bool × σ)) (s : σ) : Scan σ := do
  roundsFrom step (← get).limit s

def spaces : Scan (List Char) := run (· == ' ')

def spacesUpTo : Nat → Scan Unit
  | 0 => return ()
  | n + 1 => do
    if (← peek) = ' ' then
      skip
      spacesUpTo n

def comment : Scan Unit := do
  if (← peek) = '#' then discard <| run (!endsLine ·)

/-- Takes a line break, if one stands here: the separators of lines and paragraphs are kept, every
other one reads as a line feed. -/
def lineBreak : Scan (List Char) := do
  let c ← peek
  if c = '\r' then
    if (← peekAt 1) = '\n' then skipMany 2 else skip
    return ['\n']
  else if c = '\n' || c = '\x85' then skip; return ['\n']
  else if isLineBreak c then skip; return [c]
  else return []

def separator : Scan Bool := do
  let three := (← get).rest.take 3
  if three = ['-', '-', '-'] || three = ['.', '.', '.'] then return endsItem (← peekAt 3)
  else
    if three.length < 3 then atEnd ()
    return false

end Scan

end ProfilerBootstrap.Yaml
