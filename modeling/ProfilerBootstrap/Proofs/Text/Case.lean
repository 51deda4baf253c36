import Mathlib.Data.List.Forall2
import Mathlib.Data.List.Infix
import ProfilerBootstrap.Text.Case

namespace ProfilerBootstrap

namespace Text

def SameLetter (w c : Char) : Prop := c = w.toLower ∨ c = w.toUpper

instance (w c : Char) : Decidable (SameLetter w c) := inferInstanceAs (Decidable (_ ∨ _))

def EitherCase (word text : List Char) : Prop := List.Forall₂ SameLetter word text

/-- A word letter by letter, each in either ASCII case, where a dotless i may stand for an I and a
ligature for two F. -/
inductive Spells : List Char → List Char → Prop
  | nil : Spells [] []
  | letter {w c : Char} {word text : List Char} (h : SameLetter w c) (rest : Spells word text) :
    Spells (w :: word) (c :: text)
  | dotless {word text : List Char} (rest : Spells word text) :
    Spells ('I' :: word) ('\u0131' :: text)
  | ligature {word text : List Char} (rest : Spells word text) :
    Spells ('F' :: 'F' :: word) ('\ufb00' :: text)

/-- What holds of the first 128 characters holds of all that are ASCII. -/
theorem forall_ascii {P : Char → Prop} (h : ∀ n < 128, P (Char.ofNat n)) {c : Char}
    (hc : c.toNat < 128) : P c := by
  rw [← Char.ofNat_toNat c]
  exact h c.toNat hc

end Text

namespace Case

open Text (SameLetter EitherCase Spells)

theorem lookup_mem {α β : Type} [BEq α] [LawfulBEq α] {l : List (α × β)} {a : α} {b : β}
    (h : l.lookup a = some b) : (a, b) ∈ l := by
  induction l with
  | nil => simp at h
  | cons e l ih =>
    obtain ⟨k, v⟩ := e
    rw [List.lookup_cons] at h
    split at h
    · rename_i hk
      obtain rfl := eq_of_beq hk
      obtain rfl := Option.some.inj h
      exact List.mem_cons_self
    · exact List.mem_cons_of_mem _ (ih h)

/-- A character is mapped to several as the table says, shifted as one of the runs says, or kept. -/
theorem mapPoint_cases (expansions : List (Nat × List Nat)) (runs : List Run) (n : Nat) :
    (n, mapPoint expansions runs n) ∈ expansions ∨
      (∃ r ∈ runs, r.first ≤ n ∧ n ≤ r.last ∧ mapPoint expansions runs n = [(n + r.shift).toNat]) ∨
      mapPoint expansions runs n = [n] := by
  unfold mapPoint
  cases hexp : expansions.lookup n with
  | some ns => exact .inl (lookup_mem hexp)
  | none =>
    cases hrun : runs.findSome? (·.shifted? n) with
    | none => exact .inr (.inr rfl)
    | some m =>
      obtain ⟨r, hr, hm⟩ := List.exists_of_findSome?_eq_some hrun
      unfold Run.shifted? at hm
      split at hm
      · rename_i hin
        obtain rfl := Option.some.inj hm
        exact .inr (.inl ⟨r, hr, hin.1, hin.2.1, rfl⟩)
      · simp at hm

/-- Runs of capitals beyond ASCII do not lead into it, save that of the Kelvin sign. -/
theorem lowerRuns_leave : ∀ r ∈ lowerRuns, r.last < 128 ∨ 128 ≤ r.first + r.shift ∨
    (r.first = 8490 ∧ r.last = 8490 ∧ r.shift = -8383) := by decide +kernel

theorem lt_of_lowerPoint {n : Nat} (h : ∀ m ∈ lowerPoint n, m < 128 ∧ m ≠ 107) : n < 128 := by
  by_contra hn
  rw [lowerPoint, if_neg hn] at h
  obtain hexp | ⟨r, hr, hfirst, hlast, hmap⟩ | hkept := mapPoint_cases lowerExpansions lowerRuns n
  · obtain ⟨-, hmap⟩ := Prod.mk.inj (List.mem_singleton.1 hexp)
    have hdot := h 775 (by simp [hmap])
    omega
  · have hm := h _ (hmap ▸ List.mem_singleton_self _)
    have hleave := lowerRuns_leave r hr
    omega
  · have hm := h n (hkept ▸ List.mem_singleton_self _)
    omega

theorem lowerPoint_of_ascii {c : Char} (hc : c.toNat < 128) :
    lowerPoint c.toNat = [c.toLower.toNat] :=
  Text.forall_ascii (P := fun c => lowerPoint c.toNat = [c.toLower.toNat]) (by decide +kernel) hc

/-- What the letters of a word are that is in lower case: none of them is the lower case of a
character beyond ASCII. -/
def IsLower (w : Char) : Prop := w.toNat < 128 ∧ w ≠ 'k' ∧ w.toLower = w

instance (w : Char) : Decidable (IsLower w) := inferInstanceAs (Decidable (_ ∧ _))

theorem sameLetter_lower_iff {w c : Char} (hw : IsLower w) :
    SameLetter w c ↔ c.toNat < 128 ∧ c.toLower = w := by
  constructor
  · have hback : ∀ d, d = w.toLower ∨ d = w.toUpper → d.toNat < 128 ∧ d.toLower = w := by
      have hboth : w.toLower = w → (w.toNat < 128 ∧ w.toLower = w) ∧
          (w.toUpper.toNat < 128 ∧ w.toUpper.toLower = w) :=
        Text.forall_ascii (P := fun w => w.toLower = w → (w.toNat < 128 ∧ w.toLower = w) ∧
          (w.toUpper.toNat < 128 ∧ w.toUpper.toLower = w)) (by decide +kernel) hw.1
      rintro d (rfl | rfl)
      · rw [hw.2.2]
        exact (hboth hw.2.2).1
      · exact (hboth hw.2.2).2
    exact hback c
  · rintro ⟨hc, rfl⟩
    exact Text.forall_ascii (P := fun c => SameLetter c.toLower c) (by decide +kernel) hc

/-- A text has a word in lower case for its own lower case just if it is the word in either case,
whatever stands before it. -/
theorem lowerFrom_eq_iff {word : List Char} (hw : ∀ w ∈ word, IsLower w) (text : List Char)
    (before : List Nat) :
    lowerFrom before (text.map Char.toNat) = word.map Char.toNat ↔ EitherCase word text := by
  induction text generalizing before word with
  | nil => cases word <;> simp [lowerFrom, EitherCase]
  | cons c text ih =>
    rw [List.map_cons, lowerFrom]
    constructor
    · intro h
      -- what the first character gives is part of the word
      have hpiece : ∀ m ∈ (if c.toNat = 0x3A3 then
          [if casedFirst before && !casedFirst (text.map Char.toNat) then 0x3C2 else 0x3C3]
          else lowerPoint c.toNat), m < 128 ∧ m ≠ 107 := by
        intro m hm
        have hword : m ∈ word.map Char.toNat := h ▸ List.mem_append_left _ hm
        obtain ⟨w, hmem, rfl⟩ := List.mem_map.1 hword
        exact ⟨(hw w hmem).1, fun hk => (hw w hmem).2.1 (Char.toNat_inj.1 hk)⟩
      split at h
      · -- a sigma gives a sigma, which is no letter of the word
        rename_i hsigma
        rw [if_pos hsigma] at hpiece
        have := hpiece _ (List.mem_singleton_self _)
        split at this <;> omega
      · rename_i hsigma
        rw [if_neg hsigma] at hpiece
        have hc := lt_of_lowerPoint hpiece
        rw [lowerPoint_of_ascii hc] at h
        cases word with
        | nil => simp at h
        | cons w word =>
          obtain ⟨hhead, hrest⟩ := List.cons.inj h
          refine .cons ?_ ((ih (fun w hmem => hw w (List.mem_cons_of_mem _ hmem)) _).1 hrest)
          exact (sameLetter_lower_iff (hw w List.mem_cons_self)).2 ⟨hc, Char.toNat_inj.1 hhead⟩
    · intro h
      cases h with
      | @cons w _ word _ hletter hrest =>
        obtain ⟨hc, rfl⟩ := (sameLetter_lower_iff (hw w List.mem_cons_self)).1 hletter
        have hsigma : c.toNat ≠ 0x3A3 := by omega
        rw [if_neg hsigma, lowerPoint_of_ascii hc, List.map_cons,
          (ih (fun w hmem => hw w (List.mem_cons_of_mem _ hmem)) _).2 hrest]
        rfl

/-- Runs of small letters beyond ASCII do not lead into it, save those of the dotless i and of the
long s. -/
theorem upperRuns_leave : ∀ r ∈ upperRuns, r.last < 128 ∨ 128 ≤ r.first + r.shift ∨
    r = ⟨305, 305, 1, -232⟩ ∨ r = ⟨383, 383, 1, -300⟩ := by decide +kernel

/-- Texts of ASCII without S and without FI and FL, into which other long mappings and that of the
long s would lead. -/
def IsClean (ws : List Nat) : Prop :=
  (∀ m ∈ ws, m < 128) ∧ 83 ∉ ws ∧ ¬[70, 73] <:+: ws ∧ ¬[70, 76] <:+: ws

instance (ws : List Nat) : Decidable (IsClean ws) := inferInstanceAs (Decidable (_ ∧ _))

theorem IsClean.mono {us ws : List Nat} (h : IsClean ws) (hsub : us <:+: ws) : IsClean us :=
  ⟨fun m hm => h.1 m (hsub.subset hm), fun hm => h.2.1 (hsub.subset hm),
    fun hin => h.2.2.1 (hin.trans hsub), fun hin => h.2.2.2 (hin.trans hsub)⟩

theorem upperExpansions_clean :
    ∀ e ∈ upperExpansions, IsClean e.2 → e = (64256, [70, 70]) := by decide +kernel

theorem upperPoint_clean {n : Nat} (hn : 128 ≤ n) (h : IsClean (upperPoint n)) :
    (n = 305 ∧ upperPoint n = [73]) ∨ (n = 64256 ∧ upperPoint n = [70, 70]) := by
  rw [upperPoint, if_neg (by omega)] at h ⊢
  obtain hexp | ⟨r, hr, hfirst, hlast, hmap⟩ | hkept := mapPoint_cases upperExpansions upperRuns n
  · obtain ⟨hpoint, hmap⟩ := Prod.mk.inj (upperExpansions_clean _ hexp h)
    exact .inr ⟨hpoint, hmap⟩
  · rw [hmap] at h ⊢
    have hm := h.1 _ (List.mem_singleton_self _)
    obtain hleave | hleave | rfl | rfl := upperRuns_leave r hr
    · omega
    · omega
    · obtain rfl : n = 305 := by simp only at hfirst hlast; omega
      exact .inl ⟨rfl, rfl⟩
    · obtain rfl : n = 383 := by simp only at hfirst hlast; omega
      exact absurd (List.mem_singleton_self _) h.2.1
  · have := h.1 n (hkept ▸ List.mem_singleton_self _)
    omega

theorem upperPoint_of_ascii {c : Char} (hc : c.toNat < 128) :
    upperPoint c.toNat = [c.toUpper.toNat] :=
  Text.forall_ascii (P := fun c => upperPoint c.toNat = [c.toUpper.toNat]) (by decide +kernel) hc

theorem sameLetter_upper_iff {w c : Char} (hw : w.toNat < 128) (hup : w.toUpper = w) :
    SameLetter w c ↔ c.toNat < 128 ∧ c.toUpper = w := by
  constructor
  · have hboth : w.toUpper = w → ∀ d, SameLetter w d → d.toNat < 128 ∧ d.toUpper = w := by
      refine Text.forall_ascii (P := fun w => w.toUpper = w → ∀ d, SameLetter w d →
        d.toNat < 128 ∧ d.toUpper = w) (fun n hn hkept d hd => ?_) hw
      have hcases : ∀ n < 128, (Char.ofNat n).toUpper = Char.ofNat n →
          (Char.ofNat n).toLower.toNat < 128 ∧ (Char.ofNat n).toLower.toUpper = Char.ofNat n ∧
            (Char.ofNat n).toUpper.toNat < 128 := by decide +kernel
      obtain ⟨hlow, hback, hhigh⟩ := hcases n hn hkept
      rcases hd with rfl | rfl
      · exact ⟨hlow, hback⟩
      · exact ⟨hhigh, by rw [hkept, hkept]⟩
    exact hboth hup c
  · rintro ⟨hc, rfl⟩
    exact Text.forall_ascii (P := fun c => SameLetter c.toUpper c) (by decide +kernel) hc

theorem upperPoint_dotless : upperPoint '\u0131'.toNat = [73] := by decide +kernel

theorem upperPoint_ligature : upperPoint '\ufb00'.toNat = [70, 70] := by decide +kernel

section
variable {word : List Char} (hclean : IsClean (word.map Char.toNat)) (hup : ∀ w ∈ word, w.toUpper = w)

include hclean hup

theorem spells_of_upper {text : List Char}
    (h : upper (text.map Char.toNat) = word.map Char.toNat) : Spells word text := by
  induction text generalizing word with
  | nil =>
    obtain rfl : word = [] := by cases word <;> simp_all [upper]
    exact .nil
  | cons c text ih =>
    rw [List.map_cons, upper, List.flatMap_cons] at h
    -- what the first character gives is the beginning of the word, and so it is clean
    have hfirst : IsClean (upperPoint c.toNat) :=
      hclean.mono (h ▸ (List.prefix_append ..).isInfix)
    by_cases hc : c.toNat < 128
    · rw [upperPoint_of_ascii hc] at h
      cases word with
      | nil => simp at h
      | cons w word =>
        obtain ⟨hhead, hrest⟩ := List.cons.inj h
        have hw : w.toNat < 128 := hclean.1 _ List.mem_cons_self
        refine .letter ((sameLetter_upper_iff hw (hup w List.mem_cons_self)).2
          ⟨hc, Char.toNat_inj.1 hhead⟩) (ih ?_ ?_ hrest)
        · exact hclean.mono (List.suffix_cons ..).isInfix
        · exact fun w hmem => hup w (List.mem_cons_of_mem _ hmem)
    · obtain ⟨hpoint, hmap⟩ | ⟨hpoint, hmap⟩ := upperPoint_clean (by omega) hfirst
      · obtain rfl : c = '\u0131' := Char.toNat_inj.1 hpoint
        rw [hmap] at h
        obtain ⟨w, word, rfl, hhead, hrest⟩ := List.map_eq_cons_iff.1 h.symm
        obtain rfl : w = 'I' := Char.toNat_inj.1 hhead
        refine .dotless (ih ?_ (fun w hmem => hup w (List.mem_cons_of_mem _ hmem)) hrest.symm)
        exact hclean.mono (List.suffix_cons ..).isInfix
      · obtain rfl : c = '\ufb00' := Char.toNat_inj.1 hpoint
        rw [hmap] at h
        obtain ⟨w, tail, rfl, hhead, htail⟩ := List.map_eq_cons_iff.1 h.symm
        obtain ⟨w', word, rfl, hhead', hrest⟩ := List.map_eq_cons_iff.1 htail
        obtain rfl : w = 'F' := Char.toNat_inj.1 hhead
        obtain rfl : w' = 'F' := Char.toNat_inj.1 hhead'
        refine .ligature (ih ?_ (fun w hmem => hup w ?_) hrest.symm)
        · exact hclean.mono ((List.suffix_cons ..).trans (List.suffix_cons ..)).isInfix
        · exact List.mem_cons_of_mem _ (List.mem_cons_of_mem _ hmem)

theorem upper_of_spells {text : List Char} (h : Spells word text) :
    upper (text.map Char.toNat) = word.map Char.toNat := by
  induction h with
  | nil => rfl
  | @letter w c word text hletter _ ih =>
    have hw : w.toNat < 128 := hclean.1 _ List.mem_cons_self
    obtain ⟨hc, hupper⟩ := (sameLetter_upper_iff hw (hup w List.mem_cons_self)).1 hletter
    rw [List.map_cons, upper, List.flatMap_cons, upperPoint_of_ascii hc, hupper]
    exact congrArg (w.toNat :: ·) (ih (hclean.mono (List.suffix_cons ..).isInfix)
      fun w hmem => hup w (List.mem_cons_of_mem _ hmem))
  | dotless _ ih =>
    rw [List.map_cons, upper, List.flatMap_cons, upperPoint_dotless]
    exact congrArg (73 :: ·) (ih (hclean.mono (List.suffix_cons ..).isInfix)
      fun w hmem => hup w (List.mem_cons_of_mem _ hmem))
  | ligature _ ih =>
    rw [List.map_cons, upper, List.flatMap_cons, upperPoint_ligature]
    refine congrArg (70 :: 70 :: ·) (ih ?_ fun w hmem => hup w ?_)
    · exact hclean.mono ((List.suffix_cons ..).trans (List.suffix_cons ..)).isInfix
    · exact List.mem_cons_of_mem _ (List.mem_cons_of_mem _ hmem)

/-- A text has a clean word in upper case for its own upper case just if it spells the word. -/
theorem upper_eq_iff (text : List Char) :
    upper (text.map Char.toNat) = word.map Char.toNat ↔ Spells word text :=
  ⟨spells_of_upper hclean hup, upper_of_spells hclean hup⟩

end

end Case

theorem toNat_ofNat {n : Nat} (h : n.isValidChar) : (Char.ofNat n).toNat = n := by
  rw [Char.ofNat, dif_pos h]
  exact UInt32.toNat_ofNatLT

theorem ofPoints_eq_iff {word : String} (hnull : ∀ c ∈ word.toList, c.toNat ≠ 0) (ps : Points) :
    ofPoints ps = word ↔ ps = points word := by
  constructor
  · rintro rfl
    have hvalid : ∀ n ∈ ps, (Char.ofNat n).toNat = n := by
      intro n hn
      have hne := hnull (Char.ofNat n)
        (by rw [ofPoints, String.toList_ofList]; exact List.mem_map_of_mem hn)
      by_cases hchar : n.isValidChar
      · exact toNat_ofNat hchar
      · rw [Char.ofNat, dif_neg hchar] at hne
        exact absurd rfl hne
    rw [ofPoints, points, String.toList_ofList, List.map_map]
    exact (List.map_id ps).symm.trans (List.map_congr_left fun n hn => (hvalid n hn).symm)
  · rintro rfl
    exact ofPoints_points word

theorem lowerCase_eq_iff {word : String}
    (hw : word.toList.all fun w => Case.IsLower w ∧ w.toNat ≠ 0) (text : String) :
    lowerCase text = word ↔ Text.EitherCase word.toList text.toList := by
  simp only [List.all_eq_true, decide_eq_true_eq] at hw
  rw [lowerCase, ofPoints_eq_iff fun w hmem => (hw w hmem).2]
  exact Case.lowerFrom_eq_iff (fun w hmem => (hw w hmem).1) _ _

theorem upperCase_eq_iff {word : String} (hclean : Case.IsClean (points word))
    (hw : word.toList.all fun w => w.toUpper = w ∧ w.toNat ≠ 0) (text : String) :
    upperCase text = word ↔ Text.Spells word.toList text.toList := by
  simp only [List.all_eq_true, decide_eq_true_eq] at hw
  rw [upperCase, ofPoints_eq_iff fun w hmem => (hw w hmem).2]
  exact Case.upper_eq_iff hclean (fun w hmem => (hw w hmem).1) _

end ProfilerBootstrap
