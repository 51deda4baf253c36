import ProfilerBootstrap.Proofs.FileSystem.Contents
import ProfilerBootstrap.Proofs.Rolling.Frame
import ProfilerBootstrap.Proofs.Rolling.Run

namespace ProfilerBootstrap

theorem FileSystem.attempt_error {fs fs' : FileSystem} {done : Except Error FileSystem} {e : Error}
    (h : fs.attempt done = (fs', some e)) : fs' = fs := by
  cases done with
  | ok fs₁ => simp [attempt] at h
  | error e' => exact (congrArg Prod.fst h).symm

theorem FileSystem.Outcome.andThen_error {done : Outcome} {next : FileSystem → Outcome}
    {fs' : FileSystem} {e : Error} (h : done.andThen next = (fs', some e)) :
    done = (fs', some e) ∨ ∃ fs₁, done = (fs₁, none) ∧ next fs₁ = (fs', some e) := by
  obtain ⟨fs₁, _ | e'⟩ := done
  · exact .inr ⟨fs₁, rfl, h⟩
  · exact .inl h

namespace Roller

open FileSystem

/-- Where the path of a backup leads anywhere, neither a directory nor a link lies there, and no
other backup has the same place. -/
structure Separate (r : Roller) (fs : FileSystem) : Prop where
  plain : ∀ i : Nat, i < r.count → fs.IsFileOrFree (r.backup (r.base + i)).text
  apart : ∀ (i j : Nat) (l : Location), i < r.count → j < r.count →
    fs.Slot (r.backup (r.base + i)).text l → fs.Slot (r.backup (r.base + j)).text l → i = j

def entry (r : Roller) (fs : FileSystem) (i : Nat) : Option Entry :=
  fs.entryAt (r.backup (r.base + i)).text

/-- Nothing but files at the places of backups has been moved or removed. -/
structure Reorders (r : Roller) (fs fs' : FileSystem) : Prop where
  sound : fs'.Sound
  tree : SameTree fs fs'
  contents : fs'.contents = fs.contents
  find? : ∀ l, (∀ i : Nat, i < r.count → ¬ fs.Slot (r.backup (r.base + i)).text l) →
    fs'.find? l = fs.find? l

/-- The backups from a number on have moved up by one, and that number is free. -/
structure Opens (r : Roller) (fs fs' : FileSystem) (k : Nat) : Prop extends Reorders r fs fs' where
  below : ∀ i, i < k → r.entry fs' i = r.entry fs i
  free : r.entry fs' k = none
  above : ∀ i, k ≤ i → i + 1 < r.count → r.entry fs' (i + 1) = r.entry fs i

theorem window_eq_entry (r : Roller) (fs : FileSystem) :
    r.window fs = (List.range r.count).map fun i => fs.bytesOf (r.entry fs i) :=
  List.map_congr_left fun i _ => fs.toOption_bytesAt (r.backup (r.base + i)).text

section
variable {r : Roller} {fs fs' fs'' fs₁ : FileSystem} {i k n : Nat} {path : String}
  {e : FileSystem.Error}

theorem Separate.of_sameTree (hsep : r.Separate fs) (h : SameTree fs fs') : r.Separate fs' where
  plain i hi := h.isFileOrFree (hsep.plain i hi)
  apart i j l hi hj hl hl' := hsep.apart i j l hi hj (h.slot_iff.1 hl) (h.slot_iff.1 hl')

theorem Reorders.refl (hs : fs.Sound) : Reorders r fs fs := ⟨hs, .refl fs, rfl, fun _ _ => rfl⟩

theorem Reorders.trans (h : Reorders r fs fs') (h' : Reorders r fs' fs'') : Reorders r fs fs'' where
  sound := h'.sound
  tree := h.tree.trans h'.tree
  contents := h'.contents.trans h.contents
  find? l hl := (h'.find? l fun i hi hslot => hl i hi (h.tree.slot_iff.1 hslot)).trans (h.find? l hl)

/-- Files that come and go at places of backups leave the directories and links as they are. -/
theorem Rearranges.reorders {entries : Location → Option Entry}
    (h : Rearranges fs fs' entries)
    (hplain : ∀ l e, entries l = some e → (∀ id, e ≠ .file id) → fs.find? l = some e)
    (hother : ∀ l, (∀ i : Nat, i < r.count → ¬ fs.Slot (r.backup (r.base + i)).text l) →
      entries l = fs.find? l) : Reorders r fs fs' where
  sound := h.keeps.sound
  tree := ⟨h.keeps.here, fun l e he =>
    ⟨fun hl => hplain l e ((h.find? l).symm.trans hl) he, fun hl => h.keeps.kept l e hl he⟩⟩
  contents := h.contents
  find? l hl := (h.find? l).trans (hother l hl)

theorem Reorders.entry_eq (h : Reorders r fs fs') (hsep : r.Separate fs) (hi : i < r.count)
    (hfind : ∀ l, fs.Slot (r.backup (r.base + i)).text l → fs'.find? l = fs.find? l) :
    r.entry fs' i = r.entry fs i := by
  by_cases hslot : ∃ l, fs.Slot (r.backup (r.base + i)).text l
  · obtain ⟨l, hl⟩ := hslot
    rw [entry, entry, (h.tree.slot_iff.2 hl).entryAt, hl.entryAt, hfind l hl]
  · have hnot : ∀ l, ¬ fs.Slot (r.backup (r.base + i)).text l := fun l hl => hslot ⟨l, hl⟩
    have hnot' : ∀ l, ¬ fs'.Slot (r.backup (r.base + i)).text l := fun l hl =>
      hnot l (h.tree.slot_iff.1 hl)
    rw [entry, entry, (hsep.plain i hi).entryAt_eq_none hnot,
      ((hsep.of_sameTree h.tree).plain i hi).entryAt_eq_none hnot']

theorem opens_dropOldest (hs : fs.Sound) (hsep : r.Separate fs) (hpos : 0 < r.count)
    (h : r.dropOldest fs = .ok fs') : Opens r fs fs' (r.count - 1) := by
  obtain ⟨e, hst, ⟨rfl, rfl⟩ | ⟨-, hunlink⟩⟩ := dropOldest_ok hpos h
  · exact { Reorders.refl hs with
      below := fun i _ => rfl
      free := entryAt_of_status hst
      above := by omega }
  · have hlast : r.count - 1 < r.count := by omega
    obtain ⟨q, hq, -⟩ := unlink_ok hunlink
    have hslot := (hsep.plain _ hlast).slot hq
    obtain ⟨fs₂, hdrop, hre⟩ := dropOldest_eq hs hpos hslot
    obtain rfl : fs₂ = fs' := by simpa [hdrop] using h
    have hreorders : Reorders r fs fs₂ := by
      refine hre.reorders (fun l e hl _ => ?_) fun l hl => if_neg ?_
      · split at hl
        · simp at hl
        · exact hl
      · rintro rfl
        exact hl _ hlast hslot
    refine { hreorders with below := fun i hi => ?_, free := ?_, above := by omega }
    · refine hreorders.entry_eq hsep (by omega) fun l hl => ?_
      rw [hre.find?, if_neg]
      rintro rfl
      have := hsep.apart i _ _ (by omega) hlast hl hslot
      omega
    · rw [entry, (hreorders.tree.slot_iff.2 hslot).entryAt, hre.find?, if_pos rfl]

/-- Moving a backup up to the number that is free hands this on to the number before. -/
theorem opens_moveUp (hs : fs.Sound) (hsep : r.Separate fs) (hn : n + 1 < r.count)
    (hfree : r.entry fs (n + 1) = none) (h : r.moveUp n fs = .ok fs') :
    Reorders r fs fs' ∧ r.entry fs' n = none ∧ r.entry fs' (n + 1) = r.entry fs n ∧
      ∀ i, i < r.count → i ≠ n → i ≠ n + 1 → r.entry fs' i = r.entry fs i := by
  obtain ⟨e, hst, ⟨rfl, rfl⟩ | ⟨-, hrename⟩⟩ := moveUp_ok h
  · have hnone : r.entry fs' n = none := entryAt_of_status hst
    exact ⟨.refl hs, hnone, hfree.trans hnone.symm, fun i _ _ _ => rfl⟩
  · obtain ⟨p, q, -, hp, hq, -, -⟩ :=
      rename_text_ok (normal_backup r _) (normal_backup r _) hrename
    have hslot := (hsep.plain n (by omega)).slot hp
    have hnext := (hsep.plain (n + 1) hn).slot hq
    have hne : p.location ≠ q.location := by
      intro heq
      have := hsep.apart n (n + 1) _ (by omega) hn hslot (heq ▸ hnext)
      omega
    have hnone : fs.find? q.location = none := hnext.entryAt.symm.trans hfree
    obtain ⟨fs₂, hmove, hre⟩ := moveUp_eq hs hslot hnext hne hnone
    obtain rfl : fs₂ = fs' := by simpa [hmove] using h
    have hreorders : Reorders r fs fs₂ := by
      refine hre.reorders (fun l e hl he => ?_) fun l hl => ?_
      · split at hl
        · exact absurd hl (hslot.plain.find?_eq he)
        · split at hl
          · simp at hl
          · exact hl
      · rw [if_neg, if_neg]
        · rintro rfl
          exact hl n (by omega) hslot
        · rintro rfl
          exact hl (n + 1) hn hnext
    refine ⟨hreorders, ?_, ?_, fun i hi hin hin' => ?_⟩
    · rw [entry, (hreorders.tree.slot_iff.2 hslot).entryAt, hre.find?, if_neg hne, if_pos rfl]
    · rw [entry, entry, (hreorders.tree.slot_iff.2 hnext).entryAt, hre.find?, if_pos rfl,
        hslot.entryAt]
    · refine hreorders.entry_eq hsep hi fun l hl => ?_
      rw [hre.find?, if_neg, if_neg]
      · rintro rfl
        exact hin (hsep.apart i n _ hi (by omega) hl hslot)
      · rintro rfl
        exact hin' (hsep.apart i (n + 1) _ hi hn hl hnext)

theorem Opens.moveUp (h : Opens r fs fs₁ (k + 1)) (hsep : r.Separate fs) (hk : k + 1 < r.count)
    (hmove : r.moveUp k fs₁ = .ok fs') : Opens r fs fs' k := by
  have hsep₁ := hsep.of_sameTree h.tree
  obtain ⟨hreorders, hfree, hmoved, hother⟩ := opens_moveUp h.sound hsep₁ hk h.free hmove
  refine { h.toReorders.trans hreorders with
    below := fun i hi => ?_, free := hfree, above := fun i hi hi' => ?_ }
  · rw [hother i (by omega) (by omega) (by omega), h.below i (by omega)]
  · by_cases hik : i = k
    · rw [hik, hmoved, h.below k (by omega)]
    · rw [hother (i + 1) hi' (by omega) (by omega), h.above i (by omega) hi']

/-- Moving backups up gets as far as a number that is free now, the first one if nothing is refused.
-/
theorem Opens.shift (h : Opens r fs fs₁ n) (hsep : r.Separate fs) (hn : n < r.count) :
    ∃ k ≤ n, Opens r fs (r.shift n fs₁).1 k ∧ ((r.shift n fs₁).2 = none → k = 0) := by
  induction n generalizing fs₁ with
  | zero => exact ⟨0, Nat.le_refl 0, h, fun _ => rfl⟩
  | succ n ih =>
    rw [Roller.shift]
    cases hmove : r.moveUp n fs₁ with
    | error e => exact ⟨n + 1, Nat.le_refl _, h, by simp [attempt, Outcome.andThen]⟩
    | ok fs₂ =>
      obtain ⟨k, hk, hopens, hzero⟩ := ih (h.moveUp hsep hn hmove) (by omega)
      exact ⟨k, by omega, hopens, hzero⟩

theorem map_range_of_gap {α : Type} {f g : Nat → α} {a : α} {k n : Nat} (hk : k < n)
    (hbelow : ∀ i, i < k → g i = f i) (hgap : g k = a)
    (habove : ∀ i, k ≤ i → i + 1 < n → g (i + 1) = f i) :
    (List.range n).map g =
      ((List.range n).map f).take k ++ (a :: ((List.range n).map f).drop k).take (n - k) := by
  refine List.ext_getElem (by simp; omega) fun i hi _ => ?_
  have hi : i < n := by simpa using hi
  rw [List.getElem_map, List.getElem_range, List.getElem_append]
  split
  · rename_i hlt
    simp [hbelow i (by simp at hlt; omega)]
  · rename_i hge
    have hge : k ≤ i := by simp at hge; omega
    obtain rfl | hgt := Nat.eq_or_lt_of_le hge
    · simp [hgap, Nat.min_eq_left (Nat.le_of_lt hk)]
    · obtain ⟨j, rfl⟩ : ∃ j, i = k + j + 1 := ⟨i - k - 1, by omega⟩
      have hj : k + j + 1 - min k n = j + 1 := by omega
      simp [hj, habove (k + j) (by omega) hi]

/-- The window with a gap at a number, behind which all has moved up by one. -/
theorem Opens.window (h : Opens r fs fs' k) (hk : k < r.count) :
    r.window fs' = (r.window fs).take k ++ (none :: (r.window fs).drop k).take (r.count - k) := by
  have hbytes : ∀ e, fs'.bytesOf e = fs.bytesOf e := by
    intro e
    unfold FileSystem.bytesOf FileSystem.read
    rw [h.contents]
  rw [window_eq_entry, window_eq_entry]
  refine map_range_of_gap hk (fun i hi => ?_) ?_ fun i hi hi' => ?_
  · rw [h.below i hi, hbytes]
  · rw [h.free]
    rfl
  · rw [h.above i hi hi', hbytes]

/-- A roll that is refused has stopped before anything was done, or on the way. -/
theorem roll_error (h : r.roll fs path = (fs', some e)) :
    fs' = fs ∧ (0 < r.count → ∃ e', r.dropOldest fs = .error e') ∨
      0 < r.count ∧ ∃ fs₁, r.dropOldest fs = .ok fs₁ ∧ fs' = (r.shift (r.count - 1) fs₁).1 := by
  rw [roll] at h
  split at h
  · exact .inl ⟨attempt_error h, by omega⟩
  · rename_i hne
    cases hdrop : r.dropOldest fs with
    | error e' =>
      obtain hfirst | ⟨_, hfirst, -⟩ := Outcome.andThen_error h
      · exact .inl ⟨attempt_error hfirst, fun _ => ⟨e', rfl⟩⟩
      · simp [hdrop, attempt] at hfirst
    | ok fs₁ =>
      rw [hdrop] at h
      refine .inr ⟨Nat.pos_of_ne_zero hne, fs₁, rfl, ?_⟩
      change (r.shift (r.count - 1) fs₁).andThen _ = (fs', some e) at h
      obtain hshift | ⟨fs₂, hshift, h⟩ := Outcome.andThen_error h
      · rw [hshift]
      · rw [hshift, attempt_error h]

theorem kept_of_roll_error {R : FileSystem → Prop} (hR : KeptByEntries R)
    (h : r.roll fs path = (fs', some e)) (hfs : R fs) : R fs' := by
  obtain ⟨rfl, -⟩ | ⟨hpos, fs₁, hdrop, rfl⟩ := roll_error h
  · exact hfs
  · have hfirst := dropOldest_induction (S := fun _ => True) (fun _ => hR.unlink)
      (fun _ _ => trivial) hpos hfs
    rw [hdrop] at hfirst
    exact shift_induction (S := fun _ => True) (fun _ _ => hR.rename) (fun _ _ => trivial) _ (by omega)
      hfirst

/-- How far a roll had got when it was refused. -/
theorem opens_of_roll_error (hs : fs.Sound) (hsep : r.Separate fs)
    (h : r.roll fs path = (fs', some e)) : fs' = fs ∨ ∃ k < r.count, Opens r fs fs' k := by
  obtain ⟨rfl, -⟩ | ⟨hpos, fs₁, hdrop, rfl⟩ := roll_error h
  · exact .inl rfl
  · obtain ⟨k, hk, hopens, -⟩ := (opens_dropOldest hs hsep hpos hdrop).shift hsep (by omega)
    exact .inr ⟨k, by omega, hopens⟩

/-- Where every backup has a place, only the last step of a roll can be refused. -/
theorem opens_zero_of_roll_error (hs : fs.Sound) (hsep : r.Separate fs) (hpos : 0 < r.count)
    (hslot : ∀ i : Nat, i < r.count → ∃ l, fs.Slot (r.backup (r.base + i)).text l)
    (h : r.roll fs path = (fs', some e)) : Opens r fs fs' 0 := by
  have hchoice : ∀ i : Nat, ∃ l, i < r.count → fs.Slot (r.backup (r.base + i)).text l := by
    intro i
    by_cases hi : i < r.count
    · exact (hslot i hi).imp fun _ hl _ => hl
    · exact ⟨[], fun hi' => absurd hi' hi⟩
  obtain ⟨w, hw⟩ := Classical.axiomOfChoice hchoice
  have hslots : r.HasSlots fs w :=
    ⟨hw, fun i j hi hj hij => hsep.apart i j _ hi hj (hw i hi) (hij ▸ hw j hj)⟩
  obtain ⟨fs₁, hdrop, hre⟩ := dropOldest_eq hs hpos (hw (r.count - 1) (by omega))
  obtain ⟨-, hnot⟩ | ⟨-, fs₂, hdrop', rfl⟩ := roll_error h
  · obtain ⟨e', he'⟩ := hnot hpos
    simp [hdrop] at he'
  · obtain rfl : fs₁ = fs₂ := by simpa [hdrop] using hdrop'
    have hfirst := opens_dropOldest hs hsep hpos hdrop
    have hslots₁ : r.HasSlots fs₁ w :=
      ⟨fun i hi => hfirst.tree.slot_iff.2 (hw i hi), hslots.inj⟩
    have hfree : fs₁.find? (w (r.count - 1)) = none := by rw [hre.find?, if_pos rfl]
    obtain ⟨fs₂, hshift, -⟩ := shift_eq hre.keeps.sound hslots₁ (by omega) hfree
    obtain ⟨k, -, hopens, hzero⟩ := hfirst.shift hsep (by omega)
    exact hzero (by rw [hshift]) ▸ hopens

end

end Roller

end ProfilerBootstrap
