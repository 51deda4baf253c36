import ProfilerBootstrap.Proofs.Rolling

namespace ProfilerBootstrap.Roller

open FileSystem

def window (r : Roller) (fs : FileSystem) : List (Option ByteArray) :=
  (List.range r.count).map fun i : Nat => (fs.bytesAt (r.backup (r.base + i)).text).toOption

theorem HasSlots.window_eq {r : Roller} {fs : FileSystem} {w : Nat → Location}
    (hw : r.HasSlots fs w) :
    r.window fs = (List.range r.count).map fun i => fs.bytesOf (fs.find? (w i)) := by
  refine List.map_congr_left fun i hi => ?_
  exact (hw.slot i (List.mem_range.1 hi)).toOption_bytesAt

structure Rolled where
  path : String
  location : Location
  content : ByteArray

/-- Nothing but the file at a place may have been put, written or removed. -/
structure Puts (fs : FileSystem) (m : Location) (fs' : FileSystem) : Prop where
  sound : fs'.Sound
  same : SameBut (· = m) fs fs'
  plain : fs.NoDirOrLink m

/-- Files outside the window are rolled, the last of them first in the list; each of them may have
been put where it is just before. -/
inductive Run (r : Roller) (w : Nat → Location) (fs : FileSystem) : List Rolled → FileSystem → Prop
  | start : Run r w fs [] fs
  | roll {rolled : List Rolled} {fs₁ fs₂ : FileSystem} {path : String} {m : Location} {id : FileId}
    (h : Run r w fs rolled fs₁) (hput : Puts fs₁ m fs₂) (hfile : fs₂.FileAt path m id)
    (hm : ∀ i, i < r.count → m ≠ w i) :
    Run r w fs (⟨path, m, fs₂.read id⟩ :: rolled) (r.roll fs₂ path).1

/-- A place of a backup, or of one of the files that were rolled. -/
def Concerns (r : Roller) (w : Nat → Location) (rolled : List Rolled) (k : Location) : Prop :=
  (∃ i < r.count, k = w i) ∨ ∃ f ∈ rolled, k = f.location

/-- How things stand after some files were rolled. -/
structure After (r : Roller) (w : Nat → Location) (fs : FileSystem) (rolled : List Rolled)
    (fs' : FileSystem) : Prop where
  sound : fs'.Sound
  slots : r.HasSlots fs' w
  outside : ∀ f ∈ rolled, ∀ i, i < r.count → f.location ≠ w i
  slot : ∀ f ∈ rolled, fs'.Slot f.path f.location
  gone : ∀ f ∈ rolled, fs'.find? f.location = none
  window : r.window fs' = (rolled.map (fun f => some f.content) ++ r.window fs).take r.count
  same : SameBut (r.Concerns w rolled) fs fs'

theorem map_range_of_shift {α : Type} {f g : Nat → α} {a : α} {n : Nat} (hzero : 0 < n → g 0 = a)
    (hsucc : ∀ i, i + 1 < n → g (i + 1) = f i) :
    (List.range n).map g = (a :: (List.range n).map f).take n := by
  cases n with
  | zero => rfl
  | succ n =>
    rw [List.take_succ_cons, ← List.map_take, List.take_range, Nat.min_eq_left (Nat.le_succ n),
      List.range_succ_eq_map, List.map_cons, List.map_map, hzero (Nat.succ_pos n)]
    congr 1
    refine List.map_congr_left fun i hi => ?_
    have hi := List.mem_range.1 hi
    exact hsucc i (by omega)

section
variable {r : Roller} {fs fs' fs₁ fs₂ : FileSystem} {w : Nat → Location} {m : Location} {id : FileId}
  {path : String} {rolled : List Rolled}

theorem after_start (hs : fs.Sound) (hw : r.HasSlots fs w) : After r w fs [] fs where
  sound := hs
  slots := hw
  outside := by simp
  slot := by simp
  gone := by simp
  window := by
    have hlen : (r.window fs).length = r.count := by simp [Roller.window]
    rw [List.map_nil, List.nil_append, List.take_of_length_le (Nat.le_of_eq hlen)]
  same := .refl _ fs

theorem Puts.window (h : Puts fs m fs') (hw : r.HasSlots fs w)
    (hm : ∀ i, i < r.count → m ≠ w i) : r.HasSlots fs' w ∧ r.window fs' = r.window fs := by
  have hkept := h.same.kept fun k hk => hk ▸ h.plain
  have hw' : r.HasSlots fs' w := by
    refine hw.mono h.same.here hkept fun i hi => ?_
    exact h.same.noDirOrLink (hm i hi).symm (hw.slot i hi).plain
  refine ⟨hw', ?_⟩
  rw [hw'.window_eq, hw.window_eq]
  exact List.map_congr_left fun i hi => h.same.bytesOf (hm i (List.mem_range.1 hi)).symm

/-- What one roll does to the window, the file and everything else. -/
theorem After.roll (h : After r w fs rolled fs₁) (hput : Puts fs₁ m fs₂)
    (hfile : fs₂.FileAt path m id) (hm : ∀ i, i < r.count → m ≠ w i) :
    (r.roll fs₂ path).2 = none ∧
      After r w fs (⟨path, m, fs₂.read id⟩ :: rolled) (r.roll fs₂ path).1 := by
  obtain ⟨hw₂, hwindow₂⟩ := hput.window h.slots hm
  obtain ⟨fs', hroll, hkeeps, hcontents, hfirst, hup, hgone, hframe⟩ :=
    roll_eq hput.sound hw₂ hfile hm
  rw [hroll]
  have hread : ∀ e, fs'.bytesOf e = fs₂.bytesOf e := by
    intro e
    unfold FileSystem.bytesOf FileSystem.read
    rw [hcontents]
  have hw' : r.HasSlots fs' w := by
    refine hw₂.mono hkeeps.here hkeeps.kept fun i hi => ?_
    cases i with
    | zero => exact noDirOrLink_of_file (hfirst hi)
    | succ i =>
      intro e he
      rw [hup i hi] at he
      exact (hw₂.slot i (by omega)).plain e he
  have hkept := hput.same.kept fun k hk => hk ▸ hput.plain
  have hgone' : ∀ f ∈ rolled, fs'.find? f.location = none := by
    intro f hf
    by_cases hfm : f.location = m
    · rw [hfm, hgone]
    · rw [hframe _ hfm (h.outside f hf), hput.same.find? _ hfm, h.gone f hf]
  refine ⟨rfl, hkeeps.sound, hw', ?_, ?_, ?_, ?_, ?_⟩
  · simpa using ⟨hm, h.outside⟩
  · rintro f hf
    obtain rfl | hf := List.mem_cons.1 hf
    · exact hfile.slot.mono hkeeps.here hkeeps.kept (noDirOrLink_of_free hgone)
    · refine (h.slot f hf).mono (hkeeps.here.trans hput.same.here) ?_
        (noDirOrLink_of_free (hgone' f hf))
      exact fun k e hk he => hkeeps.kept k e (hkept k e hk he) he
  · simpa using ⟨hgone, hgone'⟩
  · -- the window has moved by one, so that what no longer fits into it falls off its end
    rw [hw'.window_eq, map_range_of_shift (a := some (fs₂.read id))
      (f := fun i => fs₂.bytesOf (fs₂.find? (w i))), ← hw₂.window_eq, hwindow₂, h.window]
    · cases r.count with
      | zero => rfl
      | succ n => simp [List.take_take]
    · intro hpos
      rw [hfirst hpos, hread]
      rfl
    · intro i hi
      rw [hup i hi, hread]
  · -- what the earlier rolls left alone is left alone, unless it was put just before
    have hnew : ∀ k, k = m → r.Concerns w (⟨path, m, fs₂.read id⟩ :: rolled) k := fun k hk =>
      .inr ⟨_, List.mem_cons_self, hk⟩
    have hold : ∀ k, r.Concerns w rolled k →
        r.Concerns w (⟨path, m, fs₂.read id⟩ :: rolled) k := fun k hk =>
      hk.imp_right fun ⟨f, hf, hkf⟩ => ⟨f, List.mem_cons_of_mem _ hf, hkf⟩
    refine ((h.same.mono hold).trans (hput.same.mono hnew)).trans ⟨hkeeps.here, fun k hk => ?_, ?_⟩
    · exact hframe k (fun hkm => hk (hnew k hkm)) fun i hi hki => hk (.inl ⟨i, hi, hki⟩)
    · intro k id' _ _
      unfold FileSystem.read
      rw [hcontents]

theorem Run.after (hs : fs.Sound) (hw : r.HasSlots fs w) (h : Run r w fs rolled fs') :
    After r w fs rolled fs' := by
  induction h with
  | start => exact after_start hs hw
  | roll h hput hfile hm ih => exact (ih.roll hput hfile hm).2

/-- After any run of rolls the window holds the contents that were rolled, the newest first, and
then what it held at the beginning, its gaps included, as far as its numbers go. The files that were
rolled are gone, and no other entry outside the window was made, changed or removed. Nothing was
refused on the way, nor will the next roll be. -/
theorem window_of_run (hs : fs.Sound) (hw : r.HasSlots fs w) (h : Run r w fs rolled fs') :
    r.window fs' = (rolled.map (fun f => some f.content) ++ r.window fs).take r.count ∧
      (∀ f ∈ rolled, fs'.find? f.location = none ∧ fs'.exists? f.path = false) ∧
      SameBut (r.Concerns w rolled) fs fs' ∧
      ∀ fs₂ path m id, Puts fs' m fs₂ → fs₂.FileAt path m id → (∀ i, i < r.count → m ≠ w i) →
        (r.roll fs₂ path).2 = none := by
  have hafter := h.after hs hw
  refine ⟨hafter.window, fun f hf => ?_, hafter.same, fun fs₂ path m id hput hfile hm => ?_⟩
  · have hgone := hafter.gone f hf
    refine ⟨hgone, ?_⟩
    rw [(hafter.slot f hf).exists?, hgone]
    rfl
  · exact (hafter.roll hput hfile hm).1

/-- Two files go into a window of three numbers with two gaps, of which one is left. -/
theorem window_of_run_with_gaps :
    let r : Roller := ⟨"b_{}", 3, -1, by decide⟩
    let file (name content : String) (fs : FileSystem) : FileSystem :=
      (fs.create [['r'], name.toList]).1.append fs.contents.size content.toUTF8
    let fs := file "c" "new" (file "a" "old" (file "b_0" "oldest" (.fresh [['r']])))
    let fs' := (r.roll (r.roll fs "a").1 "c").1
    r.window fs = [none, some "oldest".toUTF8, none] ∧
      r.window fs' = [some "new".toUTF8, some "old".toUTF8, none] ∧
      fs'.exists? "a" = false ∧ fs'.exists? "c" = false := by
  intro r file fs fs'
  have hfile : ∀ name content (fs : FileSystem), fs.Sound → fs.find? [['r'], name.toList] = none →
      fs.find? [['r']] = some .dir → IsPlain name.toList → (file name content fs).Sound := by
    intro name content fs hs hfree hdir hplain
    refine (hs.create hfree hdir fun n hn => ?_).append _ _
    obtain rfl | hn := List.mem_cons.1 hn
    · decide
    · obtain rfl := List.mem_singleton.1 hn
      exact hplain
  have hs : fs.Sound := by
    refine hfile _ _ _ (hfile _ _ _ (hfile _ _ _ (sound_fresh (by decide)) ?_ ?_ ?_) ?_ ?_ ?_) ?_ ?_ ?_
    all_goals decide +kernel
  -- the places of the three backups
  let w (i : Nat) : Location := [['r'], ["b_-1".toList, "b_0".toList, "b_1".toList].getD i []]
  have hw : r.HasSlots fs w := by
    have hreach : ∀ i : Nat, i < r.count → ((fs.reach false (r.backup (r.base + i)).text).toOption =
        some ⟨w i, if i = 1 then some (.file 0) else none⟩) := by decide +kernel
    refine ⟨fun i hi => slot_of_reach (eq_ok_of_toOption (hreach i hi)) fun e he => ?_, ?_⟩
    · split at he
      · exact ⟨0, (Option.some.inj he).symm⟩
      · simp at he
    · intro i j hi hj
      exact (by decide +kernel : ∀ i < 3, ∀ j < 3, w i = w j → i = j) i hi j hj
  have hput : ∀ {fs : FileSystem} {path : String} {m : Location} {id : FileId}, fs.Sound →
      fs.FileAt path m id → Puts fs m fs := fun hs hfile => ⟨hs, .refl _ _, hfile.slot.plain⟩
  have ha : fs.FileAt "a" [['r'], ['a']] 1 := eq_ok_of_toOption (by decide +kernel)
  have hc : (r.roll fs "a").1.FileAt "c" [['r'], ['c']] 2 := eq_ok_of_toOption (by decide +kernel)
  have hold : fs.read 1 = "old".toUTF8 := by decide +kernel
  have hnew : (r.roll fs "a").1.read 2 = "new".toUTF8 := by decide +kernel
  have hwindow : r.window fs = [none, some "oldest".toUTF8, none] := by decide +kernel
  have houta : ∀ i, i < r.count → [['r'], ['a']] ≠ w i := by decide +kernel
  have houtc : ∀ i, i < r.count → [['r'], ['c']] ≠ w i := by decide +kernel
  have hcount : r.count = 3 := rfl
  have hfs' : fs' = (r.roll (r.roll fs "a").1 "c").1 := rfl
  clear_value w fs' fs r
  have hfirst : Run r w fs _ _ := .roll .start (hput hs ha) ha houta
  have hrun : Run r w fs _ _ := .roll hfirst (hput (hfirst.after hs hw).sound hc) hc houtc
  obtain ⟨hafter, hgone, -, -⟩ := window_of_run hs hw hrun
  rw [hold, hnew, hwindow, hcount, ← hfs'] at hafter
  have hgonea := (hgone _ (List.mem_cons_of_mem _ List.mem_cons_self)).2
  have hgonec := (hgone _ List.mem_cons_self).2
  rw [← hfs'] at hgonea hgonec
  exact ⟨hwindow, hafter, hgonea, hgonec⟩

end

end ProfilerBootstrap.Roller
