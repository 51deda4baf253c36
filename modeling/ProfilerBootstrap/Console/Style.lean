import ProfilerBootstrap.Console.Colour
import ProfilerBootstrap.Text.Blank
import ProfilerBootstrap.Text.Case
import ProfilerBootstrap.Text.Digit

namespace ProfilerBootstrap.Console

/-- The ways to set text apart, in the order in which a style names them. -/
inductive Attribute
  | bold | dim | italic | underline | blink | blinkFast | reverse | conceal | strike
  | underlineTwice | frame | encircle | overline
  deriving DecidableEq, Repr

namespace Attribute

def all : List Attribute :=
  [bold, dim, italic, underline, blink, blinkFast, reverse, conceal, strike, underlineTwice, frame,
    encircle, overline]

def name : Attribute → String
  | bold => "bold"
  | dim => "dim"
  | italic => "italic"
  | underline => "underline"
  | blink => "blink"
  | blinkFast => "blink2"
  | reverse => "reverse"
  | conceal => "conceal"
  | strike => "strike"
  | underlineTwice => "underline2"
  | frame => "frame"
  | encircle => "encircle"
  | overline => "overline"

def shortName? : Attribute → Option String
  | bold => some "b"
  | dim => some "d"
  | italic => some "i"
  | underline => some "u"
  | reverse => some "r"
  | conceal => some "c"
  | strike => some "s"
  | underlineTwice => some "uu"
  | overline => some "o"
  | _ => none

def ofName? (s : String) : Option Attribute :=
  all.find? fun a => a.name = s || a.shortName? = some s

end Attribute

structure Style where
  attribute? : Attribute → Option Bool
  colour : Option String
  background : Option String
  link : Option String

namespace Style

def plain : Style := ⟨fun _ => none, none, none, none⟩

def set (s : Style) (a : Attribute) (b : Bool) : Style :=
  { s with attribute? := fun a' => if a' = a then some b else s.attribute? a' }

def isHexDigit (c : Char) : Bool := c.isDigit || ('a' ≤ c && c ≤ 'f')

/-- The number that decimal digits of any script stand for. -/
def number? (cs : List Char) : Option Nat :=
  if cs = [] then none
  else cs.foldl (fun n c => do return 10 * (← n) + (← Text.digit? c.toNat)) (some 0)

def argument? (word : String) (cs : List Char) : Option (List Char) :=
  let opening := word.toList ++ ['(']
  if opening.isPrefixOf cs && cs.getLast? = some ')' then some (cs.drop opening.length).dropLast
  else none

inductive Fault
  | noStyle
  /-- A part of a colour has no digits, which nobody looks out for. -/
  | noDigits
  deriving DecidableEq, Repr

def require (b : Bool) : Except Fault Unit := if b then .ok () else .error .noStyle

def checkParts (cs : List Char) : Except Fault Unit := do
  require (cs ≠ [] && cs.all fun c => c = ',' || (Text.digit? c.toNat).isSome)
  let parts := cs.splitOn ','
  require (parts.length = 3)
  if parts.contains [] then throw .noDigits
  require (parts.all fun ds => (number? ds).any (· < 256))

/-- A colour is known by its name, or by its place in a palette or its three parts, all below 256.
-/
def checkColour (s : String) : Except Fault Unit :=
  let cs := s.toList
  if s = "default" || colourNames.contains s then .ok ()
  else match cs, argument? "color" cs, argument? "rgb" cs with
    | '#' :: ds, _, _ => require (ds.length = 6 && ds.all isHexDigit)
    | _, some ds, _ =>
      require (ds.length ≤ 3 && ds.all Char.isDigit && (number? ds).any (· < 256))
    | _, _, some ds => checkParts ds
    | _, _, _ => .error .noStyle

def ofWords (s : Style) : List String → Except Fault Style
  | [] => .ok s
  | w :: rest =>
    let word := lowerCase w
    match word, rest with
    | "on", c :: rest => do
      let c := lowerCase c
      checkColour c
      ofWords { s with background := some c } rest
    | "not", a :: rest =>
      match Attribute.ofName? a with
      | some a => ofWords (s.set a false) rest
      | none => .error .noStyle
    | "link", l :: rest => ofWords { s with link := some l } rest
    | "on", [] => .error .noStyle
    | "not", [] => .error .noStyle
    | "link", [] => .error .noStyle
    | _, rest =>
      match Attribute.ofName? word with
      | some a => ofWords (s.set a true) rest
      | none => do
        checkColour word
        ofWords { s with colour := some word } rest

def attributeWords (s : Style) : List String :=
  Attribute.all.filterMap fun a =>
    (s.attribute? a).map fun b => if b then a.name else "not " ++ a.name

def text (s : Style) : String :=
  let words := s.attributeWords ++ s.colour.toList ++ (s.background.map ("on " ++ ·)).toList ++
    (s.link.map ("link " ++ ·)).toList
  if words = [] then "none" else String.intercalate " " words

def words (cs : List Char) : List String :=
  ((cs.splitOnP Text.isBlank).filter (· ≠ [])).map String.ofList

/-- The one name for a style; what is no style stays, in lower case. There is none where reading it
fails. -/
def normalName? (cs : List Char) : Option String :=
  let trimmed := String.ofList (Text.trim Text.isBlank cs)
  if trimmed = "none" then some "none"
  else match ofWords plain (words cs) with
    | .ok s => some s.text
    | .error .noStyle => some (lowerCase trimmed)
    | .error .noDigits => none

/-- Whether drawing text in a style fails. What is no style is drawn plainly. -/
def isBroken (cs : List Char) : Bool := ofWords plain (words cs) matches .error .noDigits

end Style

end ProfilerBootstrap.Console
