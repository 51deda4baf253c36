import ProfilerBootstrap.Text.Blank

namespace ProfilerBootstrap.Text

/-- Whether a hyphen after one text and before another divides a word: with two letters on each
side, which another hyphen may be between. -/
def dividesAt (before after : List Char) : Bool :=
  (match before.reverse with
    | c :: '-' :: d :: _ => c.isAlpha && d.isAlpha
    | c :: d :: _ => c.isAlpha && d.isAlpha
    | _ => false) &&
    match after with
    | c :: '-' :: d :: _ => c.isAlpha && d.isAlpha
    | c :: d :: _ => c.isAlpha && d.isAlpha
    | _ => false

/-- The parts of a text between which a line may end: white space, words, and parts of words up to a
hyphen. The part that is being read is in reverse order. -/
def chunksFrom (part : List Char) : List Char → List (List Char)
  | [] => if part = [] then [] else [part.reverse]
  | c :: rest =>
    let sameKind := part.all fun d => isBlank d = isBlank c
    if c = '-' ∧ sameKind ∧ dividesAt part.reverse rest then (c :: part).reverse :: chunksFrom [] rest
    else if sameKind then chunksFrom (c :: part) rest
    else part.reverse :: chunksFrom [c] rest

def chunks (cs : List Char) : List (List Char) := chunksFrom [] cs

def closeLine (line : List (List Char)) : List (List Char) :=
  let kept := match line with
    | last :: rest => if last.all isBlank then rest else line
    | [] => []
  if kept = [] then [] else [kept.reverse.flatten]

def pieces (length : Nat) (piece : List Char) : List Char → List (List Char)
  | [] => [piece.reverse]
  | c :: rest =>
    if piece.length < length then pieces length (c :: piece) rest
    else piece.reverse :: pieces length [c] rest

/-- Parts in lines, the first of which has some parts already, in reverse order. A part that no line
can hold begins on the line that is open. -/
def fillFrom (width : Nat) (line : List (List Char)) : List (List Char) → List (List Char)
  | [] => closeLine line
  | part :: rest =>
    let free := width - line.flatten.length
    if part.length ≤ free then fillFrom width (part :: line) rest
    else if width < part.length then
      let below := pieces width [] (part.drop free)
      closeLine (part.take free :: line) ++ below.dropLast ++
        fillFrom width [below.getLastD []] rest
    else closeLine line ++ fillFrom width (if part.all isBlank then [] else [part]) rest

def fill (width : Nat) (s : String) : List String :=
  (fillFrom width [] (chunks s.toList)).map String.ofList

end ProfilerBootstrap.Text
