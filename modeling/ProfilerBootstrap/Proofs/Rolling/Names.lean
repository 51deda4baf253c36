import ProfilerBootstrap.Proofs.Rolling

namespace ProfilerBootstrap.Roller

open FileSystem

/-- The backups of a roller are files in one directory, each under a name of its own. -/
structure Names (r : Roller) (s : Nat) (ns : List Name) (b : Nat → Name) : Prop where
  backup : ∀ i : Nat, r.backup (r.base + i) = ⟨s, ns ++ [b i]⟩
  normal : ∀ i, Path.Normal ⟨s, ns ++ [b i]⟩
  noUp : ∀ i, b i ≠ ['.', '.']
  inj : ∀ i j, b i = b j → i = j

section
variable {r : Roller} {s t : Nat} {ns ms : List Name} {b : Nat → Name} {d : Location} {z : Name}
  {fs fs' : FileSystem}

theorem Names.ne (hr : r.Names s ns b) {i j : Nat} (hij : i ≠ j) : d ++ [b i] ≠ d ++ [b j] := by
  intro h
  exact hij (hr.inj i j (by simpa using h))

theorem status_of_not_leads (hz : Path.Normal ⟨t, ms ++ [z]⟩) (hup : z ≠ ['.', '.'])
    (hno : ∀ d', ¬ fs.Leads ⟨t, ms⟩ d') {e : Option Entry}
    (h : fs.status (Path.text ⟨t, ms ++ [z]⟩) = .ok e) : e = none := by
  unfold status at h
  cases hreach : fs.reach true (Path.text ⟨t, ms ++ [z]⟩) with
  | ok q =>
    obtain ⟨d', hd'⟩ := (of_reach_snoc hz hup hreach).2
    exact absurd hd' (hno d')
  | error e' =>
    rw [hreach] at h
    cases e' with
    | nullCharacter => exact (Except.ok.inj h).symm
    | refused q =>
      dsimp only at h
      split at h
      · simp at h
      · exact (Except.ok.inj h).symm

section
variable (hnone : ∀ (i : Nat) e, i < r.count →
  fs.status (r.backup (r.base + i)).text = .ok e → e = none)

include hnone

theorem dropOldest_of_none (hpos : 0 < r.count) (h : r.dropOldest fs = .ok fs') : fs' = fs := by
  obtain ⟨e, hst, ⟨-, hsame⟩ | ⟨hsome, -⟩⟩ := dropOldest_ok hpos h
  · exact hsame
  · exact absurd (hnone _ e (by omega) hst) hsome

theorem shift_of_none (n : Nat) (hn : n < r.count) : (r.shift n fs).1 = fs := by
  induction n with
  | zero => rfl
  | succ n ih =>
    rw [shift]
    cases hmove : r.moveUp n fs with
    | error e => rfl
    | ok fs₁ =>
      obtain ⟨e, hst, ⟨-, rfl⟩ | ⟨hsome, -⟩⟩ := moveUp_ok hmove
      · exact ih (by omega)
      · exact absurd (hnone n e (by omega) hst) hsome

/-- Where no backup is to be found, the path of the first one has to lead somewhere for anything to
be rolled. -/
theorem reach_of_roll (hpos : 0 < r.count) {path : String} (h : r.roll fs path = (fs', none)) :
    ∃ q, fs.reach false (r.backup (r.base + ((0 : Nat) : Int))).text = .ok q := by
  obtain ⟨hzero, -⟩ | ⟨-, fs₁, fs₂, hdrop, hshift, hren⟩ := roll_ok h
  · omega
  · obtain rfl := dropOldest_of_none hnone hpos hdrop
    obtain rfl : fs₁ = fs₂ := by
      rw [← shift_of_none hnone (r.count - 1) (by omega), hshift]
    obtain ⟨-, q, -, -, hq, -⟩ := rename_ok hren
    exact ⟨q, reach_of_bare (normal_backup r _) hq⟩

end

theorem exists_leads_of_roll (hr : r.Names s ns b) (hpos : 0 < r.count) {path : String}
    (h : r.roll fs path = (fs', none)) : ∃ d', fs.Leads ⟨s, ns⟩ d' := by
  apply Classical.byContradiction
  intro hnone
  have hno : ∀ d', ¬ fs.Leads ⟨s, ns⟩ d' := fun d' hd' => hnone ⟨d', hd'⟩
  obtain ⟨q, hq⟩ := reach_of_roll (fun i e _ hst =>
    status_of_not_leads (hr.normal i) (hr.noUp i) hno (hr.backup i ▸ hst)) hpos h
  rw [hr.backup] at hq
  exact hnone (of_reach_snoc (hr.normal 0) (hr.noUp 0) hq).2

theorem Names.slot (hr : r.Names s ns b) (hlead : fs.Leads ⟨s, ns⟩ d) {i : Nat}
    (hfits : Fits s ns (b i)) (hplain : fs.NoDirOrLink (d ++ [b i])) :
    fs.Slot (r.backup (r.base + i)).text (d ++ [b i]) := by
  rw [hr.backup]
  exact ⟨reach_snoc (hr.normal i) (hr.noUp i) hfits hlead (by simp), hplain⟩

variable (hr : r.Names s ns b) (hs : fs.Sound)
  (hnull : ∀ i, hasNull (Path.text ⟨s, ns ++ [b i]⟩) = false) (hlead : fs.Leads ⟨s, ns⟩ d)

include hr hnull hlead in
theorem Names.fits_of_status {i : Nat} {e : Option Entry}
    (h : fs.status (r.backup (r.base + i)).text = .ok e) : Fits s ns (b i) := by
  rw [hr.backup] at h
  exact FileSystem.fits_of_status (hr.normal i) (hr.noUp i) (hnull i) hlead h

include hr hs hnull hlead

theorem fits_of_shift (n : Nat) (hlast : Fits s ns (b n))
    (hfiles : ∀ i, i ≤ n → Fits s ns (b i) → fs.NoDirOrLink (d ++ [b i]))
    (hfree : fs.find? (d ++ [b n]) = none) (h : r.shift n fs = (fs', none)) :
    ∀ i, i ≤ n → Fits s ns (b i) := by
  induction n generalizing fs with
  | zero =>
    intro i hi
    rwa [Nat.le_zero.1 hi]
  | succ n ih =>
    obtain ⟨fs₁, hmove, hrest⟩ := shift_succ_ok h
    obtain ⟨e, hst, -⟩ := moveUp_ok hmove
    have hfits := hr.fits_of_status hnull hlead hst
    have hplain := hfiles n (Nat.le_succ n) hfits
    obtain ⟨fs₂, hmove₂, hkeep, -, hfind⟩ := moveUp_eq hs (hr.slot hlead hfits hplain)
      (hr.slot hlead hlast (noDirOrLink_of_free hfree)) (hr.ne (by omega)) hfree
    -- with places known for both numbers, the move that was made is the one that the places give
    obtain rfl := Except.ok.inj (hmove.symm.trans hmove₂)
    -- the number that has just been left is free for the next one
    have hfree₁ : fs₁.find? (d ++ [b n]) = none := by
      rw [hfind, if_neg (hr.ne (by omega)), if_pos rfl]
    have hfiles₁ : ∀ i, i ≤ n → Fits s ns (b i) → fs₁.NoDirOrLink (d ++ [b i]) := by
      intro i hi hfit e he
      rw [hfind, if_neg (hr.ne (by omega))] at he
      split at he
      · simp at he
      · exact hfiles i (by omega) hfit e he
    intro i hi
    obtain hi | rfl := Nat.le_or_eq_of_le_succ hi
    · exact ih hkeep.sound (hkeep.leads hlead) hfits hfiles₁ hfree₁ hrest i hi
    · exact hlast

/-- When a file was rolled, its name and those of all backups fit. -/
theorem fits_of_roll (hz : Path.Normal ⟨t, ms ++ [z]⟩) (hup : z ≠ ['.', '.'])
    (hfiles : ∀ i, i < r.count → Fits s ns (b i) → fs.NoDirOrLink (d ++ [b i]))
    (h : r.roll fs (Path.text ⟨t, ms ++ [z]⟩) = (fs', none)) :
    Fits t ms z ∧ ∀ i, i < r.count → Fits s ns (b i) := by
  obtain ⟨hzero, hunlink⟩ | ⟨hpos, fs₁, fs₂, hdrop, hshift, hren⟩ := roll_ok h
  · obtain ⟨q, hq, -⟩ := unlink_ok hunlink
    exact ⟨(of_reach_snoc hz hup hq).1, by omega⟩
  · obtain ⟨p, -, -, hp, -⟩ := rename_ok hren
    have hp := reach_of_bare hz hp
    refine ⟨(of_reach_snoc hz hup hp).1, ?_⟩
    obtain ⟨e, hst, -⟩ := dropOldest_ok hpos hdrop
    have hlast := hr.fits_of_status hnull hlead hst
    have hplain := hfiles (r.count - 1) (by omega) hlast
    obtain ⟨fs₃, hdrop₃, hkeep, -, hfind⟩ := dropOldest_eq hs hpos (hr.slot hlead hlast hplain)
    obtain rfl := Except.ok.inj (hdrop.symm.trans hdrop₃)
    have hfiles₁ : ∀ i, i ≤ r.count - 1 → Fits s ns (b i) → fs₁.NoDirOrLink (d ++ [b i]) := by
      intro i hi hfit e he
      rw [hfind] at he
      split at he
      · simp at he
      · exact hfiles i (by omega) hfit e he
    intro i hi
    exact fits_of_shift hr hkeep.sound hnull (hkeep.leads hlead) (r.count - 1) hlast hfiles₁
      (by rw [hfind, if_pos rfl]) hshift i (by omega)

/-- After a file was rolled in, it is the first backup, and the others have moved up by one. Nothing
else has changed, but that the file is not at its own name any more. -/
theorem of_roll (hz : Path.Normal ⟨t, ms ++ [z]⟩) (hup : z ≠ ['.', '.']) (hlead' : fs.Leads ⟨t, ms⟩ d)
    (hzb : ∀ i, z ≠ b i) {cur : FileId} (hcur : fs.find? (d ++ [z]) = some (.file cur))
    (hfiles : ∀ i, i < r.count → Fits s ns (b i) → fs.NoDirOrLink (d ++ [b i]))
    (h : r.roll fs (Path.text ⟨t, ms ++ [z]⟩) = (fs', none)) :
    (∀ i, i < r.count → Fits s ns (b i)) ∧ Keeps fs fs' ∧
      (0 < r.count → fs'.find? (d ++ [b 0]) = some (.file cur)) ∧
      (∀ i, i + 1 < r.count → fs'.find? (d ++ [b (i + 1)]) = fs.find? (d ++ [b i])) ∧
      fs'.find? (d ++ [z]) = none ∧
      ∀ l, l ≠ d ++ [z] → (∀ i, i < r.count → l ≠ d ++ [b i]) → fs'.find? l = fs.find? l := by
  obtain ⟨hfitz, hfits⟩ := fits_of_roll hr hs hnull hlead hz hup hfiles h
  have hslots : r.HasSlots fs fun i => d ++ [b i] := by
    refine ⟨fun i hi => hr.slot hlead (hfits i hi) (hfiles i hi (hfits i hi)), ?_⟩
    intro i j _ _ hij
    exact hr.inj i j (by simpa using hij)
  have hfile : fs.FileAt (Path.text ⟨t, ms ++ [z]⟩) (d ++ [z]) cur := by
    rw [FileAt, reach_snoc hz hup hfitz hlead' (by simp), hcur]
  obtain ⟨fs₁, hroll, hkeep, -, hafter⟩ :=
    roll_eq hs hslots hfile fun i _ hzi => hzb i (by simpa using hzi)
  obtain rfl := (Prod.mk.inj (h.symm.trans hroll)).1
  exact ⟨hfits, hkeep, hafter⟩

end

end ProfilerBootstrap.Roller
