import ProfilerBootstrap.Text.CaseTable

namespace ProfilerBootstrap

/-- A text as code points, which may be surrogates. -/
abbrev Points := List Nat

def points (s : String) : Points := s.toList.map Char.toNat

def ofPoints (ps : Points) : String := String.ofList (ps.map Char.ofNat)

theorem ofPoints_points (s : String) : ofPoints (points s) = s := by
  simp only [ofPoints, points, List.map_map]
  have h : (Char.ofNat ∘ Char.toNat) = id := by funext c; simp
  simp [h]

namespace Case

def Run.shifted? (r : Run) (n : Nat) : Option Nat :=
  if r.first ≤ n ∧ n ≤ r.last ∧ (n - r.first) % r.step = 0 then some (n + r.shift).toNat else none

def mapPoint (expansions : List (Nat × List Nat)) (runs : List Run) (n : Nat) : List Nat :=
  match expansions.lookup n with
  | some ns => ns
  | none => [(runs.findSome? (·.shifted? n)).getD n]

def upperPoint (n : Nat) : List Nat :=
  if n < 128 then [if 97 ≤ n ∧ n ≤ 122 then n - 32 else n]
  else mapPoint upperExpansions upperRuns n

/-- The lower case of a code point on its own; a sigma gets its usual form. -/
def lowerPoint (n : Nat) : List Nat :=
  if n < 128 then [if 65 ≤ n ∧ n ≤ 90 then n + 32 else n]
  else mapPoint lowerExpansions lowerRuns n

def within (rs : List (Nat × Nat)) (n : Nat) : Bool := rs.any fun r => r.1 ≤ n && n ≤ r.2

/-- Some letter with case comes first, apart from characters that are skipped. -/
def casedFirst (ps : List Nat) : Bool :=
  match ps.dropWhile (within ignorableRanges) with
  | [] => false
  | n :: _ => within casedRanges n

/-- The lower case of the second list of code points, the first being what stands before it, from
right to left. A sigma takes its final form after a letter when none follows. -/
def lowerFrom : List Nat → List Nat → List Nat
  | _, [] => []
  | before, n :: rest =>
    (if n = 0x3A3 then [if casedFirst before && !casedFirst rest then 0x3C2 else 0x3C3]
     else lowerPoint n) ++ lowerFrom (n :: before) rest

def lower (ps : List Nat) : List Nat := lowerFrom [] ps

def upper (ps : List Nat) : List Nat := ps.flatMap upperPoint

def fold (ps : List Nat) : List Nat := lower (upper ps)

end Case

def lowerCase (s : String) : String := ofPoints (Case.lower (points s))

def upperCase (s : String) : String := ofPoints (Case.upper (points s))

def foldCase (s : String) : String := ofPoints (Case.fold (points s))

end ProfilerBootstrap
