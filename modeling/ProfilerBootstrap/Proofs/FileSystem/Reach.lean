import ProfilerBootstrap.Proofs.FileSystem.Walk

namespace ProfilerBootstrap

namespace Path

/-- A text has the characters of its names; the others are slashes and points. -/
theorem mem_chars_iff {c : Char} (hs : c ≠ '/') (hp : c ≠ '.') (p : Path) :
    c ∈ p.chars ↔ ∃ n ∈ p.names, c ∈ n := by
  obtain ⟨s, ns⟩ := p
  obtain rfl | ⟨front, last, rfl⟩ := ns.eq_nil_or_concat
  · by_cases h : s = 0 <;> simp [chars, h, hp, hs]
  · rw [List.concat_eq_append, chars_snoc, lead]
    simp [hs]

end Path

namespace FileSystem

theorem hasNull_text (p : Path) : hasNull p.text = true ↔ ∃ n ∈ p.names, '\x00' ∈ n := by
  rw [hasNull, Path.toList_text, List.contains_iff_mem, Path.mem_chars_iff (by decide) (by decide)]

theorem byteLength_append (cs ds : List Char) :
    byteLength (cs ++ ds) = byteLength cs + byteLength ds := by
  induction cs with
  | nil => simp [byteLength]
  | cons c cs ih => simp only [List.cons_append, byteLength, ih, Nat.add_assoc]

theorem byteLength_chars_le (s : Nat) (ns : List Name) :
    byteLength (Path.chars ⟨s, ns⟩) ≤ byteLength (Path.lead s ns) + 1 := by
  obtain rfl | ⟨front, last, rfl⟩ := ns.eq_nil_or_concat
  · have hpoint : '.'.utf8Size = 1 := by decide
    by_cases hs : s = 0 <;> simp [Path.chars, Path.lead, hs, byteLength, hpoint]
  · rw [List.concat_eq_append, Path.chars_snoc]
    simp [Path.lead, byteLength_append, byteLength]
    omega

theorem byteLength_parent {s : Nat} {ns : List Name} {n : Name} (hn : n ≠ []) :
    byteLength (Path.chars ⟨s, ns⟩) ≤ byteLength (Path.chars ⟨s, ns ++ [n]⟩) := by
  have h := byteLength_chars_le s ns
  obtain ⟨c, rest, rfl⟩ := List.exists_cons_of_ne_nil hn
  have hc := Char.utf8Size_pos c
  rw [Path.chars_snoc, byteLength_append, byteLength]
  omega

def start (fs : FileSystem) (p : Path) : Location := if p.slashes = 0 then fs.here else []

/-- Relative paths begin in a directory, which one gets to from the root by its own location. -/
structure Rooted (fs : FileSystem) : Prop where
  plain : ∀ n ∈ fs.here, IsPlain n
  here : ∀ follow, leg fs follow [] fs.here = .arrived ⟨fs.here, some .dir⟩

theorem Rooted.walkFrom_here {fs : FileSystem} (hr : fs.Rooted) (follow : Bool) (k : Nat)
    (ns : List Name) : walkFrom fs follow k [] (fs.here ++ ns) = walkFrom fs follow k fs.here ns := by
  apply walkFrom_congr
  cases ns with
  | nil =>
    rw [List.append_nil]
    exact hr.here follow
  | cons n ns => rw [leg_append _ _ _ _ (by simp), hr.here true]

theorem leg_replicate (fs : FileSystem) (follow : Bool) (l : Location) (k : Nat) (ns : List Name) :
    leg fs follow l (List.replicate k [] ++ ns) = leg fs follow l ns := by
  induction k with
  | zero => rfl
  | succ k ih => rw [List.replicate_succ, List.cons_append, leg_of_not_isName rfl, ih]

theorem leg_pieces_chars {p : Path} (hp : p.Normal) (fs : FileSystem) (follow : Bool)
    (l : Location) : leg fs follow l (Path.pieces p.chars) = leg fs follow l p.names := by
  by_cases hns : p.names = []
  · obtain ⟨s, ns⟩ := p
    subst hns
    by_cases hs : s = 0
    · subst hs
      exact leg_of_not_isName rfl fs follow l []
    · rw [Path.chars, if_neg (by simp [hs])]
      have hr := leg_replicate fs follow l (s + 1) []
      rw [List.append_nil] at hr
      simpa [Path.pieces_replicate] using hr
  · rw [Path.pieces_chars hp hns, leg_replicate]

theorem head?_chars {p : Path} (hp : p.Normal) : p.chars.head? = some '/' ↔ p.slashes ≠ 0 := by
  obtain ⟨s, ns⟩ := p
  unfold Path.chars
  cases s with
  | succ s => simp [List.replicate_succ]
  | zero =>
    by_cases hns : ns = []
    · simp [hns]
    · simpa [hns] using Path.head?_intercalate hp.names

theorem chars_ne_nil {p : Path} (hp : p.Normal) : p.chars ≠ [] := by
  obtain ⟨s, ns⟩ := p
  obtain rfl | ⟨front, last, rfl⟩ := ns.eq_nil_or_concat
  · by_cases h : s = 0 <;> simp [Path.chars, h]
  · rw [List.concat_eq_append] at hp ⊢
    rw [Path.chars_snoc]
    have hname := (hp.names last (by simp)).1
    intro hnil
    obtain ⟨-, rfl⟩ := List.append_eq_nil_iff.1 hnil
    exact absurd hname (by decide)

/-- The walk along the text of a path is the walk along its names. -/
theorem walk_text {p : Path} (hp : p.Normal) (fs : FileSystem) (follow : Bool) :
    fs.walk follow p.text =
      if pathLimit ≤ byteLength p.chars then .error .nameTooLong
      else walkFrom fs follow greatestLinks (fs.start p) p.names := by
  have horigin : origin fs.here p.chars = fs.start p := by
    unfold origin start
    by_cases hs : p.slashes = 0
    · rw [if_neg fun h => (head?_chars hp).1 h hs, if_pos hs]
    · rw [if_pos ((head?_chars hp).2 hs), if_neg hs]
  unfold walk
  simp only [Path.toList_text, if_neg (chars_ne_nil hp), horigin]
  split
  · rfl
  · exact walkFrom_congr (leg_pieces_chars hp fs follow _) _

/-- A path leads to a directory, however long its text may be. -/
def Leads (fs : FileSystem) (p : Path) (d : Location) : Prop :=
  walkFrom fs true greatestLinks (fs.start p) p.names = .ok ⟨d, some .dir⟩

/-- Neither the text of a path nor its last name is too long, and it is a text that files can have.
-/
structure Fits (s : Nat) (ns : List Name) (n : Name) : Prop where
  noNull : hasNull (Path.text ⟨s, ns ++ [n]⟩) = false
  text : byteLength (Path.chars ⟨s, ns ++ [n]⟩) < pathLimit
  name : byteLength n ≤ greatestName

section
variable {fs : FileSystem} {s : Nat} {ns : List Name} {n : Name} {d : Location}

theorem reach_snoc (hp : Path.Normal ⟨s, ns ++ [n]⟩) (hup : n ≠ ['.', '.']) (hfits : Fits s ns n)
    (hlead : fs.Leads ⟨s, ns⟩ d) {follow : Bool}
    (hlink : follow = true → ∀ target, fs.find? (d ++ [n]) ≠ some (.link target)) :
    fs.reach follow (Path.text ⟨s, ns ++ [n]⟩) = .ok ⟨d ++ [n], fs.find? (d ++ [n])⟩ := by
  have hname := (hp.names n (by simp)).1
  obtain ⟨k', hk'⟩ := walkFrom_append hlead
  have hwalk : fs.walk follow (Path.text ⟨s, ns ++ [n]⟩) =
      .ok ⟨d ++ [n], fs.find? (d ++ [n])⟩ := by
    rw [walk_text hp, if_neg (Nat.not_le.2 hfits.text)]
    refine (hk' follow [n] (by simp)).trans ?_
    exact walkFrom_single hname hup hfits.name hlink k'
  simp [reach, hfits.noNull, hwalk]

/-- Where the path of a file leads anywhere at all, the path without the last name leads to a
directory. -/
theorem of_reach_snoc (hp : Path.Normal ⟨s, ns ++ [n]⟩) (hup : n ≠ ['.', '.']) {follow : Bool}
    {q : Place} (h : fs.reach follow (Path.text ⟨s, ns ++ [n]⟩) = .ok q) :
    Fits s ns n ∧ ∃ d, fs.Leads ⟨s, ns⟩ d := by
  have hname := (hp.names n (by simp)).1
  unfold reach at h
  split at h
  · simp at h
  · rename_i hnull
    split at h
    · rename_i p hwalk
      rw [walk_text hp] at hwalk
      split at hwalk
      · simp at hwalk
      · rename_i hlen
        obtain ⟨d, hd⟩ := walkFrom_init (by simp) hwalk
        refine ⟨⟨by simpa using hnull, Nat.not_le.1 hlen, ?_⟩, d, hd⟩
        -- with a last name that is too long, the walk would get to the directory and fail there
        apply Nat.not_lt.1
        intro hlong
        obtain ⟨k', hk'⟩ := walkFrom_append hd
        have hlast := hk' follow [n] (by simp)
        rw [walkFrom_single_long hname hup hlong] at hlast
        have heq : walkFrom fs follow greatestLinks (fs.start ⟨s, ns ++ [n]⟩) (ns ++ [n]) =
            .error .nameTooLong := hlast
        rw [heq] at hwalk
        simp at hwalk
    · simp at h

theorem Leads.mono {fs' : FileSystem} {p : Path} (h : fs.Leads p d) (hhere : fs'.here = fs.here)
    (hkeep : ∀ m e, fs.find? m = some e → (∀ id, e ≠ .file id) → fs'.find? m = some e) :
    fs'.Leads p d := by
  unfold Leads start at h ⊢
  rw [hhere]
  exact walkFrom_mono (by simp) hkeep h

theorem Leads.unique {d' : Location} {p : Path} (h : fs.Leads p d) (h' : fs.Leads p d') :
    d = d' := by
  unfold Leads at h h'
  rw [h] at h'
  simpa using h'

theorem Leads.init (h : fs.Leads ⟨s, ns ++ [n]⟩ d) : ∃ d', fs.Leads ⟨s, ns⟩ d' :=
  walkFrom_init (by simp) h

end

end FileSystem

end ProfilerBootstrap
