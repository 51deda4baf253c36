import ProfilerBootstrap.Console.WidthTable

namespace ProfilerBootstrap.Console

def inRanges (rs : List (Nat × Nat)) (n : Nat) : Bool := rs.any fun r => r.1 ≤ n && n ≤ r.2

def charWidth (c : Char) : Nat :=
  let n := c.toNat
  if 32 ≤ n ∧ n < 127 then 1
  else if inRanges zeroWidthRanges n then 0
  else if inRanges wideRanges n then 2
  else 1

structure Cluster where
  text : List Char
  width : Nat
  deriving DecidableEq, Repr

namespace Cluster

def joiner : Char := '\u200d'

/-- Asks for the character before it to be drawn as a picture. -/
def selector : Char := '\ufe0f'

def join (c : Char) : List Cluster → List Cluster
  | [] => [⟨[c], 0⟩]
  | k :: ks => ⟨k.text ++ [c], k.width⟩ :: ks

def widen : List Cluster → List Cluster
  | [] => []
  | k :: ks => ⟨k.text, k.width + 1⟩ :: ks

/-- Goes on from the clusters that are done, which are in reverse order; the base is the last
character with a width of its own, as long as no selector has widened it. -/
def gather (done : List Cluster) (base : Option Char) : List Char → List Cluster
  | [] => done.reverse
  | c :: rest =>
    if c = joiner then
      match done, rest with
      | _ :: _, d :: rest => gather (join d (join c done)) base rest
      | _, rest => gather (join c done) base rest
    else if c = selector then
      match base with
      | some b =>
        if inRanges widenedRanges b.toNat then gather (widen (join c done)) none rest
        else gather (join c done) base rest
      | none => gather (join c done) none rest
    else if charWidth c = 0 then gather (join c done) base rest
    else gather (⟨[c], charWidth c⟩ :: done) (some c) rest

def ofText (cs : List Char) : List Cluster := gather [] none cs

def textOf (ks : List Cluster) : List Char := ks.flatMap text

theorem textOf_reverse_join (c : Char) (ks : List Cluster) :
    textOf (join c ks).reverse = textOf ks.reverse ++ [c] := by
  cases ks <;> simp [join, textOf]

theorem textOf_reverse_widen (ks : List Cluster) :
    textOf (widen ks).reverse = textOf ks.reverse := by
  cases ks <;> simp [widen, textOf]

theorem textOf_gather (done : List Cluster) (base : Option Char) (cs : List Char) :
    textOf (gather done base cs) = textOf done.reverse ++ cs := by
  fun_induction gather done base cs <;>
    simp_all [textOf_reverse_join, textOf_reverse_widen]
  all_goals simp [textOf]

/-- No character is lost in clusters. -/
theorem textOf_ofText (cs : List Char) : textOf (ofText cs) = cs :=
  (textOf_gather [] none cs).trans (by simp [textOf])

/-- As many clusters as fit, with blanks for the half of one that does not. -/
def take (cells : Nat) : List Cluster → List Char
  | [] => []
  | k :: ks =>
    if cells = 0 then []
    else if k.width ≤ cells then k.text ++ take (cells - k.width) ks
    else List.replicate cells ' '

def chop (cells : Nat) (line : List Char) (used : Nat) : List Cluster → List (List Char)
  | [] => [line]
  | k :: ks =>
    if cells < used + k.width then line :: chop cells k.text k.width ks
    else chop cells (line ++ k.text) (used + k.width) ks

end Cluster

def total : List Nat → Nat
  | [] => 0
  | n :: ns => n + total ns

/-- The cells that text takes after a base. Unlike in a cluster, a joiner hides the next character
even where there is none before it. -/
def widthAfter (base : Option Char) : List Char → Nat
  | [] => 0
  | c :: rest =>
    if c = Cluster.joiner then
      match rest with
      | [] => 0
      | _ :: rest => widthAfter base rest
    else if c = Cluster.selector then
      match base with
      | some b =>
        if inRanges widenedRanges b.toNat then 1 + widthAfter none rest else widthAfter base rest
      | none => widthAfter none rest
    else if charWidth c = 0 then widthAfter base rest
    else charWidth c + widthAfter (some c) rest

def width (cs : List Char) : Nat := widthAfter none cs

def blanks (n : Nat) : List Char := List.replicate n ' '

def padRightTo (cells : Nat) (cs : List Char) : List Char := cs ++ blanks (cells - width cs)

def padLeftTo (cells : Nat) (cs : List Char) : List Char := blanks (cells - width cs) ++ cs

/-- The text between blanks, the odd one on the right. -/
def centre (cells : Nat) (cs : List Char) : List Char :=
  padRightTo cells (blanks ((cells - width cs) / 2) ++ cs)

def crop (cells : Nat) (cs : List Char) : List Char :=
  if width cs ≤ cells then cs else Cluster.take cells (Cluster.ofText cs)

def abbreviate (cells : Nat) (cs : List Char) : List Char :=
  if width cs ≤ cells then cs else crop (cells - 1) cs ++ ['\u2026']

end ProfilerBootstrap.Console
