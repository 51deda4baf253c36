import ProfilerBootstrap.Console.Width

namespace ProfilerBootstrap.Console

namespace Cluster

def cells (ks : List Cluster) : Nat := total (ks.map width)

@[simp]
theorem cells_nil : cells [] = 0 := rfl

@[simp]
theorem cells_cons (k : Cluster) (ks : List Cluster) : cells (k :: ks) = k.width + cells ks := rfl

section
variable (done : List Cluster) (base : Option Char)

/-- What a character other than a joiner makes of the clusters that are done and of the base. -/
def read (c : Char) : List Cluster × Option Char :=
  if c = selector then
    match base with
    | some b =>
      if inRanges widenedRanges b.toNat then (widen (join c done), none) else (join c done, some b)
    | none => (join c done, none)
  else if charWidth c = 0 then (join c done, base)
  else (⟨[c], charWidth c⟩ :: done, some c)

theorem gather_of_ne_joiner {c : Char} (h : c ≠ joiner) (rest : List Char) :
    gather done base (c :: rest) = gather (read done base c).1 (read done base c).2 rest := by
  rw [gather.eq_def]
  unfold read
  split
  · contradiction
  · rename_i hcons
    obtain ⟨rfl, rfl⟩ := List.cons.inj hcons
    rw [if_neg h]
    split
    · cases base with
      | none => rfl
      | some b =>
        dsimp only
        split <;> rfl
    · split <;> rfl

theorem gather_joiner (k : Cluster) (ks : List Cluster) (d : Char) (rest : List Char) :
    gather (k :: ks) base (joiner :: d :: rest) =
      gather (join d (join joiner (k :: ks))) base rest := by
  rw [gather.eq_def]
  simp

theorem gather_joiner_first (rest : List Char) :
    gather [] base (joiner :: rest) = gather [⟨[joiner], 0⟩] base rest := by
  rw [gather.eq_def]
  simp [join]

theorem gather_joiner_last (k : Cluster) (ks : List Cluster) :
    gather (k :: ks) base [joiner] = (join joiner (k :: ks)).reverse := by
  rw [gather.eq_def]
  simp [gather]

end

/-- Characters are read one by one, but for one that is joined to those before it. -/
@[elab_as_elim]
theorem gather_induction {motive : List Cluster → Option Char → List Char → Prop}
    (nil : ∀ done base, motive done base [])
    (joined : ∀ base k ks d rest, motive (join d (join joiner (k :: ks))) base rest →
      motive (k :: ks) base (joiner :: d :: rest))
    (first : ∀ base rest, motive [⟨[joiner], 0⟩] base rest → motive [] base (joiner :: rest))
    (last : ∀ base k ks, motive (k :: ks) base [joiner])
    (other : ∀ done base c rest, c ≠ joiner →
      motive (read done base c).1 (read done base c).2 rest → motive done base (c :: rest))
    (done : List Cluster) (base : Option Char) (cs : List Char) : motive done base cs := by
  match cs, done with
  | [], done => exact nil done base
  | c :: rest, done =>
    by_cases hc : c = joiner
    · subst hc
      match done, rest with
      | [], rest => exact first base rest (gather_induction nil joined first last other _ _ rest)
      | k :: ks, [] => exact last base k ks
      | k :: ks, d :: rest =>
        exact joined base k ks d rest (gather_induction nil joined first last other _ _ rest)
    · exact other done base c rest hc (gather_induction nil joined first last other _ _ rest)
termination_by cs.length

/-- A cluster begins with a character, which is no space if it takes more than one cell. -/
def Begins (k : Cluster) : Prop := ∃ c rest, k.text = c :: rest ∧ (2 ≤ k.width → c ≠ ' ')

/-- The clusters that are done begin as they have to, the last of them with the base. All but the
first take cells. -/
structure Grown (done : List Cluster) (base : Option Char) : Prop where
  begins : ∀ k ∈ done, k.Begins
  width_pos : ∀ k ∈ done.dropLast, 0 < k.width
  base : ∀ b, base = some b → ∃ k ks rest, done = k :: ks ∧ k.text = b :: rest

section
variable {done : List Cluster} {base : Option Char}

theorem begins_single (c : Char) : (⟨[c], charWidth c⟩ : Cluster).Begins := by
  refine ⟨c, [], rfl, ?_⟩
  rintro hwide rfl
  exact absurd hwide (by decide)

theorem Begins.join {k : Cluster} (h : k.Begins) (c : Char) :
    (⟨k.text ++ [c], k.width⟩ : Cluster).Begins := by
  obtain ⟨b, rest, htext, hwide⟩ := h
  exact ⟨b, rest ++ [c], by rw [htext, List.cons_append], hwide⟩

theorem Grown.join (h : Grown done base) (c : Char) : Grown (join c done) base := by
  cases done with
  | nil =>
    refine ⟨List.forall_mem_singleton.2 ⟨c, [], rfl, nofun⟩, nofun, fun b hb => ?_⟩
    obtain ⟨k, ks, rest, hnil, -⟩ := h.base b hb
    cases hnil
  | cons k ks =>
    obtain ⟨hk, hks⟩ := List.forall_mem_cons.1 h.begins
    refine ⟨List.forall_mem_cons.2 ⟨hk.join c, hks⟩, ?_, fun b hb => ?_⟩
    · cases ks with
      | nil => exact nofun
      | cons l ks => exact List.forall_mem_cons.2 (List.forall_mem_cons.1 h.width_pos)
    · obtain ⟨_, _, rest, hcons, htext⟩ := h.base b hb
      obtain ⟨rfl, rfl⟩ := List.cons.inj hcons
      exact ⟨_, _, rest ++ [c], rfl, by rw [htext, List.cons_append]⟩

theorem Grown.widen {b : Char} (h : Grown done (some b)) (hb : inRanges widenedRanges b.toNat) :
    Grown (widen done) none := by
  obtain ⟨k, ks, rest, rfl, htext⟩ := h.base b rfl
  have hne : b ≠ ' ' := by
    rintro rfl
    exact absurd hb (by decide)
  obtain ⟨-, hks⟩ := List.forall_mem_cons.1 h.begins
  refine ⟨List.forall_mem_cons.2 ⟨⟨b, rest, htext, fun _ => hne⟩, hks⟩, ?_, nofun⟩
  cases ks with
  | nil => exact nofun
  | cons l ks =>
    exact List.forall_mem_cons.2 ⟨Nat.succ_pos _, (List.forall_mem_cons.1 h.width_pos).2⟩

theorem Grown.single (h : Grown done base) {c : Char} (hc : charWidth c ≠ 0) :
    Grown (⟨[c], charWidth c⟩ :: done) (some c) where
  begins := List.forall_mem_cons.2 ⟨begins_single c, h.begins⟩
  width_pos := by
    cases done with
    | nil => exact nofun
    | cons k ks => exact List.forall_mem_cons.2 ⟨Nat.pos_of_ne_zero hc, h.width_pos⟩
  base := by
    rintro b ⟨⟩
    exact ⟨_, done, [], rfl, rfl⟩

theorem Grown.read (h : Grown done base) (c : Char) :
    Grown (read done base c).1 (read done base c).2 := by
  unfold Cluster.read
  split
  · cases base with
    | none => exact h.join c
    | some b =>
      dsimp only
      split
      · rename_i hb
        exact (h.join c).widen hb
      · exact h.join c
  · split
    · exact h.join c
    · rename_i hc
      exact h.single hc

theorem Grown.forget (h : Grown done base) : Grown done none :=
  ⟨h.begins, h.width_pos, fun b hb => by cases hb⟩

theorem Grown.gather {cs : List Char} (h : Grown done base) :
    Grown (gather done base cs).reverse none := by
  induction done, base, cs using gather_induction with
  | nil done base =>
    rw [Cluster.gather, List.reverse_reverse]
    exact h.forget
  | joined base k ks d rest ih =>
    rw [gather_joiner]
    exact ih ((h.join joiner).join d)
  | first base rest ih =>
    rw [gather_joiner_first]
    exact ih (h.join joiner)
  | last base k ks =>
    rw [gather_joiner_last, List.reverse_reverse]
    exact (h.join joiner).forget
  | other done base c rest hc ih =>
    rw [gather_of_ne_joiner done base hc]
    exact ih (h.read c)

theorem grown_ofText (cs : List Char) : Grown (ofText cs).reverse none :=
  Grown.gather ⟨nofun, nofun, nofun⟩

theorem begins_ofText (cs : List Char) : ∀ k ∈ ofText cs, k.Begins :=
  fun k hk => (grown_ofText cs).begins k (List.mem_reverse.2 hk)

theorem width_pos_of_mem_tail (cs : List Char) : ∀ k ∈ (ofText cs).tail, 0 < k.width := by
  have hpos := (grown_ofText cs).width_pos
  rw [List.dropLast_reverse] at hpos
  exact fun k hk => hpos k (List.mem_reverse.2 hk)

end

section
variable {n : Nat} {ks : List Cluster}

/-- Clusters are cut short if they do not fit. The blanks for half of a wide one do not read like
it. -/
theorem cells_le_of_take (hks : ∀ k ∈ ks, k.Begins) (h : textOf ks <+: take n ks) :
    cells ks ≤ n := by
  induction ks generalizing n with
  | nil => exact Nat.zero_le n
  | cons k ks ih =>
    obtain ⟨⟨c, text, htext, hwide⟩, hrest⟩ := List.forall_mem_cons.1 hks
    have hcons : textOf (k :: ks) = c :: text ++ textOf ks := by rw [← htext]; rfl
    rw [take] at h
    split at h
    · rw [hcons] at h
      exact absurd (List.prefix_nil.1 h) (List.cons_ne_nil c _)
    · split at h
      · have hks : textOf ks <+: take (n - k.width) ks := (List.prefix_append_right_inj k.text).1 h
        have := ih hrest hks
        rw [cells_cons]
        omega
      · have hspace : c = ' ' := List.eq_of_mem_replicate (h.subset (hcons ▸ List.mem_cons_self))
        exact absurd hspace (hwide (by omega))

theorem count_take_le {c : Char} (hc : c ≠ ' ') (n : Nat) (ks : List Cluster) :
    (take n ks).count c ≤ (textOf ks).count c := by
  induction ks generalizing n with
  | nil => exact Nat.le_refl _
  | cons k ks ih =>
    rw [textOf, List.flatMap_cons, ← textOf, List.count_append, take]
    split
    · simp
    · split
      · rw [List.count_append]
        exact Nat.add_le_add_left (ih _) _
      · rw [List.count_replicate, if_neg (by simpa using hc.symm)]
        exact Nat.zero_le _

theorem take_of_cells_le (hks : ∀ k ∈ ks, 0 < k.width) (h : cells ks ≤ n) :
    take n ks = textOf ks := by
  induction ks generalizing n with
  | nil => rfl
  | cons k ks ih =>
    obtain ⟨hk, hrest⟩ := List.forall_mem_cons.1 hks
    rw [cells_cons] at h
    rw [take, if_neg (by omega), if_pos (by omega), ih hrest (by omega)]
    rfl

theorem take_ofText {cs : List Char} (hn : 0 < n) (h : cells (ofText cs) ≤ n) :
    take n (ofText cs) = cs := by
  have hpos := width_pos_of_mem_tail cs
  have htext := textOf_ofText cs
  cases hks : ofText cs with
  | nil => rw [← htext, hks]; rfl
  | cons k ks =>
    rw [hks] at htext h
    rw [hks, List.tail_cons] at hpos
    rw [cells_cons] at h
    rw [take, if_neg (by omega), if_pos (by omega), take_of_cells_le hpos (by omega)]
    exact htext

theorem chop_ne_nil {line : List Char} {used : Nat} : chop n line used ks ≠ [] := by
  induction ks generalizing line used with
  | nil => exact List.cons_ne_nil _ _
  | cons k ks ih =>
    rw [chop]
    split
    · exact List.cons_ne_nil _ _
    · exact ih

theorem chop_of_fits {line : List Char} {used : Nat} (h : used + cells ks ≤ n) :
    chop n line used ks = [line ++ textOf ks] := by
  induction ks generalizing line used with
  | nil => rw [chop, textOf, List.flatMap_nil, List.append_nil]
  | cons k ks ih =>
    rw [cells_cons] at h
    rw [chop, if_neg (by omega), ih (by omega), List.append_assoc]
    rfl

theorem flatten_chop (n : Nat) (line : List Char) (used : Nat) (ks : List Cluster) :
    (chop n line used ks).flatten = line ++ textOf ks := by
  induction ks generalizing line used with
  | nil => simp [chop, textOf]
  | cons k ks ih =>
    have htext : textOf (k :: ks) = k.text ++ textOf ks := rfl
    rw [chop, htext]
    split
    · rw [List.flatten_cons, ih]
    · rw [ih, List.append_assoc]

end

end Cluster

theorem widthAfter_cons {c : Char} (h : c ≠ Cluster.joiner) (base : Option Char) :
    ∃ n base', ∀ rest, widthAfter base (c :: rest) = n + widthAfter base' rest := by
  by_cases hselector : c = Cluster.selector
  · subst hselector
    cases base with
    | none => exact ⟨0, none, fun rest => by rw [widthAfter.eq_def]; simp [h]⟩
    | some b =>
      by_cases hb : inRanges widenedRanges b.toNat
      · exact ⟨1, none, fun rest => by rw [widthAfter.eq_def]; simp [h, hb]⟩
      · exact ⟨0, some b, fun rest => by rw [widthAfter.eq_def]; simp [h, hb]⟩
  · by_cases hzero : charWidth c = 0
    · exact ⟨0, base, fun rest => by rw [widthAfter.eq_def]; simp [h, hselector, hzero]⟩
    · exact ⟨charWidth c, some c, fun rest => by rw [widthAfter.eq_def]; simp [h, hselector, hzero]⟩

theorem widthAfter_le_append (base : Option Char) (cs ds : List Char) :
    widthAfter base cs ≤ widthAfter base (cs ++ ds) := by
  match cs with
  | [] => exact Nat.zero_le _
  | c :: rest =>
    by_cases hc : c = Cluster.joiner
    · subst hc
      match rest with
      | [] => exact Nat.zero_le _
      | _ :: rest => simpa [widthAfter] using widthAfter_le_append base rest ds
    · obtain ⟨n, base', hcons⟩ := widthAfter_cons hc base
      rw [List.cons_append, hcons, hcons]
      exact Nat.add_le_add_left (widthAfter_le_append base' rest ds) n
termination_by cs.length

theorem width_le_append (cs ds : List Char) : width cs ≤ width (cs ++ ds) :=
  widthAfter_le_append none cs ds

section
variable {n : Nat} {cs : List Char}

/-- A text is cropped to one that it begins just if it fits, on its own or in clusters. -/
theorem crop_eq_iff {ds : List Char} (hn : 0 < n) (h : cs <+: ds) :
    crop n cs = ds ↔ cs = ds ∧ (width cs ≤ n ∨ Cluster.cells (Cluster.ofText cs) ≤ n) := by
  unfold crop
  split
  · rename_i hfits
    exact (and_iff_left (.inl hfits)).symm
  · rename_i hlong
    rw [or_iff_right hlong]
    constructor
    · intro htake
      have hcells : Cluster.cells (Cluster.ofText cs) ≤ n := by
        refine Cluster.cells_le_of_take (Cluster.begins_ofText cs) ?_
        rw [Cluster.textOf_ofText, htake]
        exact h
      exact ⟨(Cluster.take_ofText hn hcells).symm.trans htake, hcells⟩
    · rintro ⟨rfl, hcells⟩
      exact Cluster.take_ofText hn hcells

theorem count_crop_le {c : Char} (hc : c ≠ ' ') : (crop n cs).count c ≤ cs.count c := by
  unfold crop
  split
  · exact Nat.le_refl _
  · have htake := Cluster.count_take_le hc n (Cluster.ofText cs)
    rwa [Cluster.textOf_ofText] at htake

end

end ProfilerBootstrap.Console
