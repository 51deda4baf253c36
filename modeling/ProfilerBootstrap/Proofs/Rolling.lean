import ProfilerBootstrap.Proofs.FileSystem.Slot
import ProfilerBootstrap.Proofs.Rolling.Pattern
import ProfilerBootstrap.Proofs.Sequence

namespace ProfilerBootstrap.Roller

open FileSystem

section
variable {r : Roller} {fs fs' : FileSystem}

theorem base_add_last (hpos : 0 < r.count) :
    r.base + (r.count : Int) - 1 = r.base + ((r.count - 1 : Nat) : Int) := by
  omega

theorem base_add_succ (r : Roller) (n : Nat) :
    r.base + (n : Int) + 1 = r.base + ((n + 1 : Nat) : Int) := by
  omega

theorem base_add_zero (r : Roller) : r.base = r.base + ((0 : Nat) : Int) := by
  omega

theorem dropOldest_ok (hpos : 0 < r.count) (h : r.dropOldest fs = .ok fs') :
    ∃ e, fs.status (r.backup (r.base + ((r.count - 1 : Nat) : Int))).text = .ok e ∧
      (e = none ∧ fs' = fs ∨
        e ≠ none ∧ fs.unlink (r.backup (r.base + ((r.count - 1 : Nat) : Int))).text = .ok fs') := by
  rw [← base_add_last hpos]
  obtain ⟨e, hst, h⟩ := bind_ok h
  refine ⟨e, hst, ?_⟩
  cases e with
  | none => exact .inl ⟨rfl, (Except.ok.inj h).symm⟩
  | some e => exact .inr ⟨by simp, h⟩

theorem moveUp_ok {n : Nat} (h : r.moveUp n fs = .ok fs') :
    ∃ e, fs.status (r.backup (r.base + n)).text = .ok e ∧
      (e = none ∧ fs' = fs ∨ e ≠ none ∧ fs.rename (r.backup (r.base + n)).text
        (r.backup (r.base + ((n + 1 : Nat) : Int))).text = .ok fs') := by
  rw [← base_add_succ]
  obtain ⟨e, hst, h⟩ := bind_ok h
  refine ⟨e, hst, ?_⟩
  cases e with
  | none => exact .inl ⟨rfl, (Except.ok.inj h).symm⟩
  | some e => exact .inr ⟨by simp, h⟩

theorem shift_succ_ok {n : Nat} (h : r.shift (n + 1) fs = (fs', none)) :
    ∃ fs₁, r.moveUp n fs = .ok fs₁ ∧ r.shift n fs₁ = (fs', none) := by
  rw [shift] at h
  obtain ⟨fs₁, hmove, hrest⟩ := Outcome.andThen_ok h
  exact ⟨fs₁, attempt_ok hmove, hrest⟩

theorem roll_ok {path : String} (h : r.roll fs path = (fs', none)) :
    r.count = 0 ∧ fs.unlink path = .ok fs' ∨
      0 < r.count ∧ ∃ fs₁ fs₂, r.dropOldest fs = .ok fs₁ ∧ r.shift (r.count - 1) fs₁ = (fs₂, none) ∧
        fs₂.rename path (r.backup (r.base + ((0 : Nat) : Int))).text = .ok fs' := by
  rw [← base_add_zero]
  rw [roll] at h
  split at h
  · rename_i hzero
    exact .inl ⟨hzero, attempt_ok h⟩
  · rename_i hpos
    obtain ⟨fs₁, hdrop, h⟩ := Outcome.andThen_ok h
    obtain ⟨fs₂, hshift, h⟩ := Outcome.andThen_ok h
    exact .inr ⟨Nat.pos_of_ne_zero hpos, fs₁, fs₂, attempt_ok hdrop, hshift, attempt_ok h⟩

end

/-- Every backup has a place of its own, with a file in it or not. -/
structure HasSlots (r : Roller) (fs : FileSystem) (w : Nat → Location) : Prop where
  slot : ∀ i : Nat, i < r.count → fs.Slot (r.backup (r.base + i)).text (w i)
  inj : ∀ i j, i < r.count → j < r.count → w i = w j → i = j

/-- Files have been moved or removed, and now the entries are these. -/
structure Rearranges (fs fs' : FileSystem) (entries : Location → Option Entry) : Prop where
  keeps : Keeps fs fs'
  contents : fs'.contents = fs.contents
  find? : ∀ l, fs'.find? l = entries l

section
variable {r : Roller} {fs fs' : FileSystem} {w : Nat → Location} {m l : Location} {id : FileId}
  {path : String}

theorem HasSlots.ne (hw : r.HasSlots fs w) {i j : Nat} (hi : i < r.count) (hj : j < r.count)
    (hij : i ≠ j) : w i ≠ w j :=
  fun h => hij (hw.inj i j hi hj h)

theorem HasSlots.mono (hw : r.HasSlots fs w) (hhere : fs'.here = fs.here)
    (hkeep : ∀ m e, fs.find? m = some e → (∀ id, e ≠ .file id) → fs'.find? m = some e)
    (hplain : ∀ i, i < r.count → fs'.NoDirOrLink (w i)) : r.HasSlots fs' w where
  slot i hi := (hw.slot i hi).mono hhere hkeep (hplain i hi)
  inj := hw.inj

variable (hs : fs.Sound)

include hs

theorem rearranges_erase (hl : fs.find? l = some (.file id)) :
    Rearranges fs (fs.erase l) fun k => if k = l then none else fs.find? k := by
  have hplain : fs.NoDirOrLink l := noDirOrLink_of_file hl
  have hne : l ≠ [] := ne_nil_of_find? hl (by simp)
  refine ⟨?_, rfl, find?_erase_of_ne_nil fs hne⟩
  rw [← List.dropLast_concat_getLast hne] at hplain ⊢
  exact hs.keeps_erase hplain

theorem rearranges_rename (h : fs.FileAt path l id) {p : Path} (hp : p.Normal)
    (htarget : fs.Slot p.text m) (hne : l ≠ m) :
    ∃ fs', fs.rename path p.text = .ok fs' ∧ Rearranges fs fs' fun k =>
      if k = m then some (.file id) else if k = l then none else fs.find? k := by
  obtain ⟨d, n, rfl, hd, hn⟩ := htarget.exists_snoc hs hp
  refine ⟨_, h.rename hs htarget (by simpa using hd) hne,
    hs.keeps_move h.find? htarget.plain hne hd hn, rfl, fun k => ?_⟩
  rw [hs.find?_move h.slot.plain.noDir (by simp) hne, h.find?]

theorem dropOldest_eq (hpos : 0 < r.count)
    (hslot : fs.Slot (r.backup (r.base + ((r.count - 1 : Nat) : Int))).text l) :
    ∃ fs', r.dropOldest fs = .ok fs' ∧ Rearranges fs fs' fun k =>
      if k = l then none else fs.find? k := by
  unfold dropOldest
  simp only [base_add_last hpos, hslot.status, bind, Except.bind, pure, Except.pure]
  cases hl : fs.find? l with
  | none =>
    refine ⟨fs, rfl, .refl hs, rfl, fun k => ?_⟩
    split
    · rename_i hk
      rw [hk, hl]
    · rfl
  | some e =>
    obtain ⟨id, rfl⟩ := hslot.plain e hl
    exact ⟨_, (hslot.fileAt hl).unlink, rearranges_erase hs hl⟩

/-- A backup, or a gap, moves up to a number that is free. -/
theorem moveUp_eq {n : Nat} (hslot : fs.Slot (r.backup (r.base + n)).text l)
    (hnext : fs.Slot (r.backup (r.base + ((n + 1 : Nat) : Int))).text m) (hne : l ≠ m)
    (hfree : fs.find? m = none) :
    ∃ fs', r.moveUp n fs = .ok fs' ∧ Rearranges fs fs' fun k =>
      if k = m then fs.find? l else if k = l then none else fs.find? k := by
  unfold moveUp
  simp only [base_add_succ, hslot.status, bind, Except.bind, pure, Except.pure]
  cases hl : fs.find? l with
  | none =>
    refine ⟨fs, rfl, .refl hs, rfl, fun k => ?_⟩
    split
    · rename_i hk
      rw [hk, hfree]
    · split
      · rename_i hk
        rw [hk, hl]
      · rfl
  | some e =>
    obtain ⟨id, rfl⟩ := hslot.plain e hl
    exact rearranges_rename hs (hslot.fileAt hl) (normal_backup r _) hnext hne

/-- Towards a free number all backups before it move up, and gaps with them. -/
theorem shift_eq (hw : r.HasSlots fs w) {n : Nat} (hn : n < r.count)
    (hfree : fs.find? (w n) = none) :
    ∃ fs', r.shift n fs = (fs', none) ∧ Keeps fs fs' ∧ fs'.contents = fs.contents ∧
      fs'.find? (w 0) = none ∧ (∀ i, i < n → fs'.find? (w (i + 1)) = fs.find? (w i)) ∧
      ∀ k, (∀ i, i ≤ n → k ≠ w i) → fs'.find? k = fs.find? k := by
  -- downwards from the free number, which each move hands on to the number before it
  induction n generalizing fs with
  | zero => exact ⟨fs, rfl, .refl hs, rfl, hfree, by simp, fun _ _ => rfl⟩
  | succ n ih =>
    obtain ⟨fs₁, hmove, hkeeps, hcontents, hfind⟩ := moveUp_eq hs
      (hw.slot n (by omega)) (hw.slot (n + 1) hn) (hw.ne (by omega) hn (by omega)) hfree
    -- the number that has just been left is free for the next one
    have hfree₁ : fs₁.find? (w n) = none := by
      rw [hfind, if_neg (hw.ne (by omega) hn (by omega)), if_pos rfl]
    have hplain₁ : ∀ i, i < r.count → fs₁.NoDirOrLink (w i) := by
      intro i hi e he
      rw [hfind] at he
      split at he
      · exact (hw.slot n (by omega)).plain e he
      · split at he
        · simp at he
        · exact (hw.slot i hi).plain e he
    obtain ⟨fs', hshift, hkeeps', hcontents', hzero, hup, hframe⟩ :=
      ih hkeeps.sound (hw.mono hkeeps.here hkeeps.kept hplain₁) (by omega) hfree₁
    refine ⟨fs', ?_, hkeeps.trans hkeeps', hcontents'.trans hcontents, hzero, fun i hi => ?_,
      fun k hk => ?_⟩
    · rw [shift, hmove]
      exact hshift
    · by_cases hin : i = n
      · subst hin
        rw [hframe _ fun j hj => hw.ne hn (by omega) (by omega), hfind, if_pos rfl]
      · rw [hup i (by omega), hfind, if_neg (hw.ne (by omega) hn (by omega)),
          if_neg (hw.ne (by omega) (by omega) hin)]
    · rw [hframe k fun i hi => hk i (by omega), hfind, if_neg (hk _ (Nat.le_refl _)),
        if_neg (hk _ (Nat.le_succ n))]

/-- A file that is rolled becomes the first backup, and the others move up by one, gaps included,
but for the last one; nothing else has changed, and nothing is refused. -/
theorem roll_eq (hw : r.HasSlots fs w) (hfile : fs.FileAt path m id)
    (hm : ∀ i, i < r.count → m ≠ w i) :
    ∃ fs', r.roll fs path = (fs', none) ∧ Keeps fs fs' ∧ fs'.contents = fs.contents ∧
      (0 < r.count → fs'.find? (w 0) = some (.file id)) ∧
      (∀ i, i + 1 < r.count → fs'.find? (w (i + 1)) = fs.find? (w i)) ∧
      fs'.find? m = none ∧
      ∀ k, k ≠ m → (∀ i, i < r.count → k ≠ w i) → fs'.find? k = fs.find? k := by
  by_cases hzero : r.count = 0
  · -- without a window the file is removed
    obtain ⟨hkeeps, hcontents, hfind⟩ := rearranges_erase hs hfile.find?
    refine ⟨fs.erase m, ?_, hkeeps, hcontents, by omega, by omega, ?_, fun k hk _ => ?_⟩
    · rw [roll, if_pos hzero, hfile.unlink]
      rfl
    · rw [hfind, if_pos rfl]
    · rw [hfind, if_neg hk]
  · have hpos : 0 < r.count := Nat.pos_of_ne_zero hzero
    obtain ⟨fs₁, hdrop, hkeeps₁, hcontents₁, hfind₁⟩ := dropOldest_eq hs hpos (hw.slot _ (by omega))
    have hplain₁ : ∀ i, i < r.count → fs₁.NoDirOrLink (w i) := by
      intro i hi e he
      rw [hfind₁] at he
      split at he
      · simp at he
      · exact (hw.slot i hi).plain e he
    obtain ⟨fs₂, hshift, hkeeps₂, hcontents₂, hfree, hup, hframe⟩ :=
      shift_eq hkeeps₁.sound (hw.mono hkeeps₁.here hkeeps₁.kept hplain₁) (n := r.count - 1) (by omega)
        (by rw [hfind₁, if_pos rfl])
    have hkeeps := hkeeps₁.trans hkeeps₂
    -- the file is where it was, and its new place is free
    have hfind₂ : fs₂.find? m = some (.file id) := by
      rw [hframe m fun i hi => hm i (by omega), hfind₁, if_neg (hm _ (by omega)), hfile.find?]
    have hfile₂ : fs₂.FileAt path m id := by
      have hplain₂ := noDirOrLink_of_file hfind₂
      exact (hfile.slot.mono hkeeps.here hkeeps.kept hplain₂).fileAt hfind₂
    have hfirst : fs₂.Slot (r.backup (r.base + ((0 : Nat) : Int))).text (w 0) :=
      (hw.slot 0 hpos).mono hkeeps.here hkeeps.kept (noDirOrLink_of_free hfree)
    obtain ⟨fs', hrename, hkeeps', hcontents', hfind'⟩ :=
      rearranges_rename hkeeps.sound hfile₂ (normal_backup r _) hfirst (hm 0 hpos)
    refine ⟨fs', ?_, hkeeps.trans hkeeps', hcontents'.trans (hcontents₂.trans hcontents₁),
      fun _ => ?_, fun i hi => ?_, ?_, fun k hk hb => ?_⟩
    · rw [roll, if_neg hzero, hdrop, base_add_zero r]
      simp only [attempt, Outcome.andThen, hshift, hrename]
    · rw [hfind', if_pos rfl]
    · rw [hfind', if_neg (hw.ne hi hpos (by omega)), if_neg (hm _ hi).symm, hup i (by omega), hfind₁,
        if_neg (hw.ne (by omega) (by omega) (by omega))]
    · rw [hfind', if_neg (hm 0 hpos), if_pos rfl]
    · rw [hfind', if_neg (hb 0 hpos), if_neg hk, hframe k fun i hi => hb i (by omega), hfind₁,
        if_neg (hb _ (by omega))]

end

end ProfilerBootstrap.Roller
