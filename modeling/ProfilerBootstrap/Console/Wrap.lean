import ProfilerBootstrap.Console.Width
import ProfilerBootstrap.Text.Blank

namespace ProfilerBootstrap.Console

/-- What becomes of a word that no line can hold. -/
inductive Overflow
  | fold
  | abbreviate
  deriving DecidableEq, Repr

namespace Wrap

theorem length_dropWhile_le (p : α → Bool) (l : List α) : (l.dropWhile p).length ≤ l.length :=
  (List.dropWhile_sublist p).length_le

/-- The words of a line with the white space after them, the first also with what is before it. -/
def words (cs : List Char) : List (List Char) :=
  match _found : cs.dropWhile Text.isBlank with
  | [] => []
  | c :: rest =>
    let after := rest.dropWhile (!Text.isBlank ·)
    (cs.takeWhile Text.isBlank ++ c :: rest.takeWhile (!Text.isBlank ·) ++
        after.takeWhile Text.isBlank) :: words (after.dropWhile Text.isBlank)
termination_by cs.length
decreasing_by
  have h := length_dropWhile_le Text.isBlank cs
  have h' := length_dropWhile_le (!Text.isBlank ·) rest
  have h'' := length_dropWhile_le Text.isBlank (rest.dropWhile (!Text.isBlank ·))
  simp only [_found, List.length_cons] at h
  omega

def closed (line : List Char) : List (List Char) := if line = [] then [] else [line]

/-- The parts of a word that no line can hold. They begin on the line if that is empty. -/
def fold (cells : Nat) (line w : List Char) : List (List Char) :=
  let pieces := Cluster.chop cells [] 0 (Cluster.ofText w)
  if line = [] then pieces.dropWhile (· = []) else line :: pieces

/-- Puts words on a line that has some text and takes some cells already, and on lines below. -/
def flow (o : Overflow) (cells : Nat) (line : List Char) (used : Nat) :
    List (List Char) → List (List Char)
  | [] => [line]
  | w :: ws =>
    let need := width (Text.dropEnd Text.isBlank w)
    if used + need ≤ cells then flow o cells (line ++ w) (used + width w) ws
    else if o = .fold ∧ cells < need then
      let pieces := fold cells line w
      let last := pieces.getLastD []
      pieces.dropLast ++ flow o cells last (width last) ws
    else closed line ++ flow o cells w (width w) ws

def breakLine (o : Overflow) (cells : Nat) (line : List Char) : List (List Char) :=
  let ws := words line
  if ws = [] then [line] else flow o cells [] 0 ws

/-- The line without white space at its end that is too much. -/
def dropExcess (cells : Nat) (line : List Char) : List Char :=
  let trailing := (line.reverse.takeWhile Text.isBlank).length
  line.take (line.length - min trailing (line.length - cells))

def tabStop : Nat := 8

/-- A part that a tab ends, with a blank for the tab and as many more as lead to the next stop. -/
def toStop (part : List Char) : List Char :=
  let part := part ++ [' ']
  part ++ blanks ((tabStop - width part % tabStop) % tabStop)

def alignTabs : List (List Char) → List Char
  | [] => []
  | [p] => p
  | p :: q :: rest => toStop p ++ alignTabs (q :: rest)

def expandTabs (line : List Char) : List Char := alignTabs (line.splitOn '\t')

end Wrap

/-- The text in lines. Those that are too long are left for the caller to cut. -/
def wrap (o : Overflow) (cells : Nat) (cs : List Char) : List (List Char) :=
  (cs.splitOn '\n').flatMap fun line =>
    (Wrap.breakLine o cells (Wrap.expandTabs line)).map (Wrap.dropExcess cells)

/-- The text as a paragraph of the console. Nothing is shown where there is no room at all. -/
def paragraph (cells : Nat) (cs : List Char) : String :=
  if cells = 0 then ""
  else String.join ((wrap .fold cells cs).map fun line => String.ofList (crop cells line) ++ "\n")

end ProfilerBootstrap.Console
