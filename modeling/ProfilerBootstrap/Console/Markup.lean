import ProfilerBootstrap.Console.Emoji
import ProfilerBootstrap.Console.Shown
import ProfilerBootstrap.Console.Style

namespace ProfilerBootstrap.Console.Markup

/-- What the bracket of a tag begins with; any other bracket is text. -/
def opensTag (c : Char) : Bool := ('a' ≤ c && c ≤ 'z') || c = '#' || c = '/' || c = '@'

def untilBracket? : List Char → Option (List Char × List Char)
  | [] => none
  | c :: rest =>
    if c = ']' then some ([], rest)
    else if c = '[' then none
    else (untilBracket? rest).map fun r => (c :: r.1, r.2)

/-- The body of a tag whose bracket is open, and what follows the tag. -/
def body? : List Char → Option (List Char × List Char)
  | [] => none
  | c :: rest => if opensTag c then (untilBracket? rest).map fun r => (c :: r.1, r.2) else none

theorem untilBracket?_eq {cs body rest : List Char} (h : untilBracket? cs = some (body, rest)) :
    cs = body ++ ']' :: rest := by
  induction cs generalizing body rest with
  | nil => simp [untilBracket?] at h
  | cons c cs ih =>
    simp only [untilBracket?] at h
    split at h
    · simp_all
    · split at h
      · simp at h
      · obtain ⟨⟨b, r⟩, hr, he⟩ := Option.map_eq_some_iff.1 h
        obtain ⟨rfl, rfl⟩ : c :: b = body ∧ r = rest := by simpa using he
        simp [ih hr]

theorem body?_eq {cs body rest : List Char} (h : body? cs = some (body, rest)) :
    cs = body ++ ']' :: rest := by
  cases cs with
  | nil => simp [body?] at h
  | cons c cs =>
    simp only [body?] at h
    split at h
    · obtain ⟨⟨b, r⟩, hr, he⟩ := Option.map_eq_some_iff.1 h
      obtain ⟨rfl, rfl⟩ : c :: b = body ∧ r = rest := by simpa using he
      simp [untilBracket?_eq hr]
    · simp at h

/-- A unit of markup: a character, or a tag with the backslashes in front of it. -/
inductive Token
  | char (c : Char)
  | tag (slashes : Nat) (body : List Char)
  deriving DecidableEq, Repr

namespace Token

def bracketed (body : List Char) : List Char := '[' :: body ++ [']']

def slashesOf (n : Nat) : List Char := List.replicate n '\\'

def write : Token → List Char
  | char c => [c]
  | tag n body => slashesOf n ++ bracketed body

def writeAll (ts : List Token) : List Char := ts.flatMap write

def scan (slashes : Nat) : List Char → List Token
  | [] => (slashesOf slashes).map char
  | c :: rest =>
    if c = '\\' then scan (slashes + 1) rest
    else if c = '[' then
      match _found : body? rest with
      | some (body, after) => tag slashes body :: scan 0 after
      | none => (slashesOf slashes).map char ++ char c :: scan 0 rest
    else (slashesOf slashes).map char ++ char c :: scan 0 rest
termination_by cs => cs.length
decreasing_by
  · simp
  · simp [body?_eq _found]; omega
  · simp
  · simp

def ofText (cs : List Char) : List Token := scan 0 cs

theorem writeAll_chars (cs : List Char) : writeAll (cs.map char) = cs := by
  induction cs with
  | nil => rfl
  | cons c cs ih => simp_all [writeAll, write]

theorem writeAll_append (ts us : List Token) :
    writeAll (ts ++ us) = writeAll ts ++ writeAll us := by simp [writeAll]

theorem slashesOf_succ (n : Nat) (cs : List Char) :
    slashesOf (n + 1) ++ cs = slashesOf n ++ '\\' :: cs := by
  simp [slashesOf, List.replicate_succ']

theorem writeAll_scan (n : Nat) (cs : List Char) :
    writeAll (scan n cs) = slashesOf n ++ cs := by
  fun_induction scan n cs with
  | case1 => simp [writeAll_chars]
  | case2 n rest ih => rw [ih, slashesOf_succ]
  | case3 n rest body after found _ ih =>
    rw [body?_eq found]
    simp_all [writeAll, write, bracketed, slashesOf]
  | case4 n rest _ ih =>
    rw [writeAll_append, writeAll_chars]
    simp_all [writeAll, write, slashesOf]
  | case5 n c rest _ _ ih =>
    rw [writeAll_append, writeAll_chars]
    simp_all [writeAll, write, slashesOf]

/-- The tokens of a text make up the text. -/
theorem writeAll_ofText (cs : List Char) : writeAll (ofText cs) = cs := by
  simp [ofText, writeAll_scan, slashesOf]

def escape : Token → Token
  | char c => char c
  | tag n body => tag (2 * n + 1) body

end Token

def endsInSlash (cs : List Char) : Bool :=
  match cs.reverse with
  | '\\' :: '\\' :: _ => false
  | '\\' :: _ => true
  | _ => false

/-- Markup that shows a text. A last backslash is doubled, so that it affects no tag after it. -/
def escape (cs : List Char) : List Char :=
  let escaped := Token.writeAll ((Token.ofText cs).map Token.escape)
  if endsInSlash escaped then escaped ++ ['\\'] else escaped

/-- What keeps markup from being shown. A closing tag comes with its place in the markup. -/
inductive Error
  | unmatched (body : List Char) (position : Nat)
  | nothingOpen (position : Nat)
  /-- What is wrong with the arguments of an event. -/
  | event (problem : String)
  /-- A part of a colour has no digits. -/
  | noDigits
  deriving DecidableEq, Repr

def Error.message : Error → String
  | unmatched body n =>
    s!"closing tag '{String.ofList (Token.bracketed body)}' at position {n} " ++
      "doesn't match any open tag"
  | nothingOpen n => s!"closing tag '[/]' at position {n} has nothing to close"
  | event problem => problem
  | noDigits => "invalid literal for int() with base 10: ''"

/-- A stretch of text to show, or a tag to obey, with its place in the markup. -/
inductive Piece
  | text (cs : List Char)
  | tag (body : List Char) (position : Nat)
  deriving DecidableEq, Repr

namespace Piece

def ofPending (pending : List Char) : List Piece :=
  if pending = [] then [] else [text pending.reverse]

/-- The pieces of tokens, the first of which has its place in the markup; the text that is pending
is in reverse order. Each two of the backslashes in front of a tag show one; one more makes it
text. -/
def ofTokens (pending : List Char) (position : Nat) : List Token → List Piece
  | [] => ofPending pending
  | .char c :: ts => ofTokens (c :: pending) (position + 1) ts
  | .tag n body :: ts =>
    ofPending pending ++ ofPending (Token.slashesOf (n / 2)) ++
      (if n % 2 = 1 then [text (Token.bracketed body)] else [tag body (position + n)]) ++
      ofTokens [] (position + n + body.length + 2) ts

/-- Text with each bracket that has a backslash before it alone. -/
def plainBrackets : List Char → List Char
  | '\\' :: '[' :: rest => '[' :: plainBrackets rest
  | c :: rest => c :: plainBrackets rest
  | [] => []

def shown : Piece → List Char
  | text cs => Emoji.replace (plainBrackets cs)
  | tag _ _ => []

end Piece

def nameOf (body : List Char) : List Char := body.takeWhile (· ≠ '=')

def value? (body : List Char) : Option (List Char) :=
  match body.dropWhile (· ≠ '=') with
  | [] => none
  | _ :: value => some value

/-- A tag that is open, and where the text begins that it is about. -/
structure OpenTag where
  start : Nat
  name : String
  value : Option (List Char)
  deriving DecidableEq, Repr

namespace OpenTag

def isEvent (t : OpenTag) : Bool := t.name.toList.head? = some '@'

def style (t : OpenTag) : List Char := t.name.toList ++ (t.value.map (' ' :: ·)).getD []

/-- The text up to an end, if drawing it in the style of the tag fails. -/
def broken (t : OpenTag) (stop : Nat) : List (Nat × Nat) :=
  if Style.isBroken t.style then [(t.start, stop)] else []

end OpenTag

/-- How far markup has been obeyed: the length of the text so far, the tags that are open, the
innermost first, and the stretches of text that cannot be drawn. -/
structure Progress where
  length : Nat
  opened : List OpenTag
  broken : List (Nat × Nat)
  deriving DecidableEq, Repr

/-- Controls that would move what follows them. -/
def isStripped (c : Char) : Bool := [7, 8, 11, 12, 13].contains c.toNat

def visible (cs : List Char) : List Char := cs.filter (!isStripped ·)

/-- Reads the arguments of an event, and tells what is wrong with them. -/
abbrev EventReader := List Char → Option String

namespace Progress

def start : Progress := ⟨0, [], []⟩

/-- Closes a tag. An event has to have arguments that can be read, if it has any. -/
def close (events : EventReader) (p : Progress) (t : OpenTag) (opened : List OpenTag) :
    Except Error Progress :=
  if t.isEvent then
    match t.value.bind fun value => if value = [] then none else events value with
    | some problem => .error (.event problem)
    | none => .ok { p with opened := opened }
  else .ok { p with opened := opened, broken := p.broken ++ t.broken p.length }

def obeyTag (events : EventReader) (p : Progress) (body : List Char) (position : Nat) :
    Except Error Progress :=
  match nameOf body with
  | '/' :: name =>
    if Text.trim Text.isBlank name = [] then
      match p.opened with
      | [] => .error (.nothingOpen position)
      | t :: opened => p.close events t opened
    else match Style.normalName? (Text.trim Text.isBlank name) with
      | none => .error .noDigits
      | some name =>
        match p.opened.find? (·.name = name) with
        | none => .error (.unmatched body position)
        | some t => p.close events t (p.opened.eraseP (·.name = name))
  | name =>
    match Style.normalName? name with
    | none => .error .noDigits
    | some name => .ok { p with opened := ⟨p.length, name, value? body⟩ :: p.opened }

def obey (events : EventReader) (p : Progress) : Piece → Except Error Progress
  | .tag body n => p.obeyTag events body n
  | .text cs => .ok { p with length := p.length + (visible (Piece.shown (.text cs))).length }

def obeyAll (events : EventReader) (p : Progress) : List Piece → Except Error Progress
  | [] => .ok p
  | q :: qs => do obeyAll events (← p.obey events q) qs

/-- What cannot be drawn once the markup ends, where all tags are closed. -/
def finish (p : Progress) : List (Nat × Nat) := p.broken ++ p.opened.flatMap (·.broken p.length)

end Progress

/-- Text as the console takes it when it is no markup. -/
def literal (cs : List Char) : List Char := visible (Emoji.replace cs)

def render (events : EventReader) (cs : List Char) : Except Error Shown :=
  if cs.contains '[' then do
    let pieces := Piece.ofTokens [] 0 (Token.ofText cs)
    let p ← Progress.start.obeyAll events pieces
    return ⟨visible (pieces.flatMap Piece.shown), p.finish⟩
  else .ok (.plain (literal cs))

end ProfilerBootstrap.Console.Markup
