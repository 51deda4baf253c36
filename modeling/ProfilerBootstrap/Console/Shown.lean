import ProfilerBootstrap.Console.Wrap

namespace ProfilerBootstrap.Console

/-- A text as markup shows it, and the stretches of it that cannot be drawn, each from a place up to
another. -/
structure Shown where
  text : List Char
  broken : List (Nat × Nat)
  deriving DecidableEq, Repr

namespace Shown

def plain (cs : List Char) : Shown := ⟨cs, []⟩

def between (s : Shown) (start stop : Nat) : Shown where
  text := (s.text.take stop).drop start
  broken := (s.broken.map fun r => (max r.1 start - start, min r.2 stop - start)).filter
    fun r => r.1 < r.2

def partsFrom (s : Shown) (gap start : Nat) : List Nat → List Shown
  | [] => []
  | n :: ns => s.between start (start + n) :: s.partsFrom gap (start + n + gap) ns

/-- The parts of these lengths, with a gap after each. A text in one part keeps its empty stretches.
-/
def divide (s : Shown) (gap : Nat) (lengths : List Nat) : List Shown :=
  if lengths.length ≤ 1 then [s] else s.partsFrom gap 0 lengths

/-- Another text in place of this one. If it is shorter, the stretches beyond its end are lost. -/
def cutTo (s : Shown) (cs : List Char) : Shown :=
  ⟨cs, if cs.length < s.text.length then s.broken.filter (·.1 < cs.length) else s.broken⟩

def append (s t : Shown) : Shown :=
  ⟨s.text ++ t.text, s.broken ++ t.broken.map fun r => (s.text.length + r.1, s.text.length + r.2)⟩

def join (ss : List Shown) : Shown := ss.foldr append (.plain [])

/-- A part that a tab ends, brought to the next stop. A stretch up to its end goes on to the stop.
-/
def toStop (s : Shown) : Shown :=
  let text := Wrap.toStop s.text.dropLast
  ⟨text, s.broken.map fun r => if s.text.length ≤ r.2 then (r.1, text.length) else r⟩

def tabbed : List (List Char) → List (List Char)
  | [] => []
  | [p] => [p]
  | p :: q :: rest => (p ++ ['\t']) :: tabbed (q :: rest)

def expandTabs (s : Shown) : Shown :=
  if s.text.contains '\t' then
    let parts := s.divide 0 ((tabbed (s.text.splitOn '\t')).map List.length)
    join (parts.map fun p => if p.text.getLast? = some '\t' then p.toStop else p)
  else s

def wrap (o : Overflow) (cells : Nat) (s : Shown) : List Shown :=
  (s.divide 1 ((s.text.splitOn '\n').map List.length)).flatMap fun line =>
    let line := line.expandTabs
    (line.divide 0 ((Wrap.breakLine o cells line.text).map List.length)).map fun part =>
      part.cutTo (Wrap.dropExcess cells part.text)

end Shown

end ProfilerBootstrap.Console
