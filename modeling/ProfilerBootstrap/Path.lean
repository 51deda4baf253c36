import ProfilerBootstrap.Text.Case

namespace ProfilerBootstrap

abbrev Name := List Char

/-- A path as its text says it. Repeated slashes, single points and a slash at the end mean nothing;
two points are kept, as what they lead to depends on links. Two slashes in front differ from one,
three do not. -/
structure Path where
  /-- The slashes in front. -/
  slashes : Nat
  names : List Name
  deriving DecidableEq, Repr, Inhabited

namespace Path

/-- The names between slashes, the empty ones included. -/
def pieces (cs : List Char) : List Name := cs.splitOn '/'

def isName (n : Name) : Bool := n ≠ [] && n ≠ ['.']

def leadingSlashes (cs : List Char) : Nat :=
  match (cs.takeWhile (· = '/')).length with
  | 0 => 0
  | 2 => 2
  | _ => 1

def ofChars (cs : List Char) : Path := ⟨leadingSlashes cs, (pieces cs).filter isName⟩

def ofText (s : String) : Path := ofChars s.toList

def chars (p : Path) : List Char :=
  if p.slashes = 0 ∧ p.names = [] then ['.']
  else List.replicate p.slashes '/' ++ ['/'].intercalate p.names

def text (p : Path) : String := String.ofList p.chars

/-- What a text names from a path on; an absolute one leaves the path behind. -/
def join (p : Path) (s : String) : Path :=
  let q := ofText s
  if q.slashes = 0 then ⟨p.slashes, p.names ++ q.names⟩ else q

def parent (p : Path) : Path := ⟨p.slashes, p.names.dropLast⟩

/-- Resolves points without looking at any link; nothing lies above the root. -/
def climb (names : List Name) : List Name :=
  (names.foldl (fun up n => if n = ['.', '.'] then up.drop 1 else n :: up) []).reverse

end Path

end ProfilerBootstrap
