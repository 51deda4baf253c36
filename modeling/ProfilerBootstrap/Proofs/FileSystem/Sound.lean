import ProfilerBootstrap.FileSystem.Operation
import ProfilerBootstrap.Proofs.FileSystem.Reach

namespace ProfilerBootstrap.FileSystem

structure Sound (fs : FileSystem) : Prop where
  parents : ∀ e ∈ fs.entries, fs.find? e.1.dropLast = some .dir
  files : ∀ e ∈ fs.entries, ∀ id, e.2 = .file id → id < fs.contents.size
  plain : ∀ e ∈ fs.entries, ∀ n ∈ e.1, IsPlain n
  here : fs.find? fs.here = some .dir

section
variable {fs : FileSystem} {l : Location} {e : Entry}

theorem find?_nil (fs : FileSystem) : fs.find? [] = some .dir := if_pos rfl

theorem ne_nil_of_find? (h : fs.find? l = some e) (he : e ≠ .dir) : l ≠ [] := by
  rintro rfl
  rw [find?_nil] at h
  exact he (Option.some.inj h).symm

theorem ne_nil_of_free (h : fs.find? l = none) : l ≠ [] := by
  rintro rfl
  simp [find?_nil] at h

theorem mem_of_find? (h : fs.find? l = some e) (hl : l ≠ []) : (l, e) ∈ fs.entries := by
  rw [find?, if_neg hl] at h
  obtain ⟨before, after, hes, -⟩ := List.lookup_eq_some_iff.1 h
  rw [hes]
  simp

theorem Sound.find?_dropLast (hs : fs.Sound) (h : fs.find? l = some e) :
    fs.find? l.dropLast = some .dir := by
  by_cases hl : l = []
  · subst hl
    exact find?_nil fs
  · exact hs.parents _ (mem_of_find? h hl)

theorem Sound.id_lt (hs : fs.Sound) {id : FileId} (h : fs.find? l = some (.file id)) :
    id < fs.contents.size :=
  hs.files _ (mem_of_find? h (ne_nil_of_find? h (by simp))) id rfl

theorem Sound.plain_of_find? (hs : fs.Sound) (h : fs.find? l = some e) : ∀ n ∈ l, IsPlain n := by
  by_cases hl : l = []
  · subst hl
    exact fun n hn => absurd hn List.not_mem_nil
  · exact hs.plain _ (mem_of_find? h hl)

theorem Sound.isDir_of_below (hs : fs.Sound) (rest : List Name) (hrest : rest ≠ [])
    (h : fs.find? (l ++ rest) = some e) : fs.find? l = some .dir := by
  induction hn : rest.length generalizing rest e with
  | zero => exact absurd (List.length_eq_zero_iff.1 hn) hrest
  | succ n ih =>
    have hdir := hs.find?_dropLast h
    rw [List.dropLast_append_of_ne_nil hrest] at hdir
    by_cases hd : rest.dropLast = []
    · rwa [hd, List.append_nil] at hdir
    · exact ih rest.dropLast hd hdir (by simp [hn])

theorem Sound.eq_of_isWithin (hs : fs.Sound) (hl : fs.find? l ≠ some .dir)
    {x : Location × Entry} (hx : x ∈ fs.entries) (h : isWithin l x.1 = true) : x.1 = l := by
  obtain ⟨rest, hrest⟩ := List.isPrefixOf_iff_prefix.1 h
  by_cases hnil : rest = []
  · rw [← hrest, hnil, List.append_nil]
  · obtain ⟨e, he⟩ : ∃ e, fs.find? x.1 = some e := by
      have hne : x.1 ≠ [] := by
        rw [← hrest]
        simp [hnil]
      have hsome : (fs.entries.lookup x.1).isSome := by
        rw [List.lookup_isSome_iff]
        exact ⟨x, hx, by simp⟩
      rw [find?, if_neg hne]
      exact Option.isSome_iff_exists.1 hsome
    rw [← hrest] at he
    exact absurd (hs.isDir_of_below rest hnil he) hl

theorem Sound.leg_location (hs : fs.Sound) (follow : Bool) (h : fs.find? l = some .dir) :
    leg fs follow [] l = .arrived ⟨l, some .dir⟩ := by
  induction hn : l.length generalizing l follow with
  | zero =>
    obtain rfl := List.length_eq_zero_iff.1 hn
    rfl
  | succ n ih =>
    have hl : l ≠ [] := by
      rintro rfl
      simp at hn
    have hdir := ih true (hs.find?_dropLast h) (by simp [hn])
    have hlast : l.dropLast ++ [l.getLast hl] = l := List.dropLast_concat_getLast hl
    have hplain := hs.plain_of_find? h (l.getLast hl) (List.getLast_mem hl)
    rw [← hlast, leg_append _ _ _ _ (by simp), hdir]
    simp only
    rw [leg_cons hplain.name hplain.noUp hplain.short, hlast, h]
    rfl

theorem Sound.rooted (hs : fs.Sound) : fs.Rooted :=
  ⟨hs.plain_of_find? hs.here, fun follow => hs.leg_location follow hs.here⟩

end

theorem find?_erase_of_ne_nil (fs : FileSystem) {l : Location} (hl : l ≠ []) (m : Location) :
    (fs.erase l).find? m = if m = l then none else fs.find? m := by
  by_cases hm : m = []
  · subst hm
    rw [if_neg (Ne.symm hl), find?_nil, find?_nil]
  · exact find?_erase fs l hm

theorem find?_insert_of_ne_nil (fs : FileSystem) {l : Location} (hl : l ≠ []) (e : Entry)
    (m : Location) : (fs.insert l e).find? m = if m = l then some e else fs.find? m := by
  by_cases hm : m = []
  · subst hm
    rw [if_neg (Ne.symm hl), find?_nil, find?_nil]
  · exact find?_insert fs l e hm

theorem find?_create (fs : FileSystem) {l : Location} (hl : l ≠ []) (m : Location) :
    (fs.create l).1.find? m = if m = l then some (.file fs.contents.size) else fs.find? m := by
  rw [create]
  exact find?_insert_of_ne_nil _ hl _ m

theorem read_create (fs : FileSystem) (l : Location) {id : FileId} (h : id < fs.contents.size) :
    (fs.create l).1.read id = fs.read id := by
  simp [create, insert, erase, read, Array.getD, h, Nat.lt_succ_of_lt h, Array.getElem_push]

theorem read_create_self (fs : FileSystem) (l : Location) :
    (fs.create l).1.read fs.contents.size = .empty := by
  simp [create, insert, erase, read, Array.getD]

theorem lookup_map_move (l m : Location) (hlm : l ≠ m) (es : List (Location × Entry))
    (hm : ∀ x ∈ es, x.1 ≠ m) (k : Location) :
    (es.map fun x => if x.1 = l then (m, x.2) else x).lookup k =
      if k = m then es.lookup l else if k = l then none else es.lookup k := by
  induction es with
  | nil => simp
  | cons x es ih =>
    obtain ⟨y, e⟩ := x
    have hy : y ≠ m := hm (y, e) List.mem_cons_self
    have ih := ih fun x hx => hm x (List.mem_cons_of_mem _ hx)
    rw [List.map_cons]
    by_cases hyl : y = l
    · subst hyl
      simp only [if_pos]
      rw [Bindings.lookup_cons_eq, Bindings.lookup_cons_eq, Bindings.lookup_cons_eq, ih]
      by_cases hk : k = m
      · simp [hk]
      · by_cases hky : k = y <;> simp [hk, hky, hy]
    · simp only [if_neg hyl]
      rw [Bindings.lookup_cons_eq, Bindings.lookup_cons_eq, Bindings.lookup_cons_eq, ih]
      by_cases hky : k = y
      · subst hky
        simp [hy, hyl]
      · simp [hky, Ne.symm hyl]

section
variable {fs : FileSystem} {l m : Location}

theorem Sound.entries_move (hs : fs.Sound) (hl : fs.find? l ≠ some .dir) :
    (fs.move l m).entries = (fs.erase m).entries.map fun x => if x.1 = l then (m, x.2) else x := by
  rw [move]
  apply List.map_congr_left
  intro x hx
  by_cases hxl : x.1 = l
  · have hw : isWithin l x.1 = true := List.isPrefixOf_iff_prefix.2 (hxl ▸ List.prefix_refl _)
    rw [if_pos hxl, if_pos hw, hxl, List.drop_length, List.append_nil]
  · have hw : ¬ isWithin l x.1 = true := fun hw =>
      hxl (hs.eq_of_isWithin hl (List.mem_filter.1 hx).1 hw)
    rw [if_neg hxl, if_neg hw]

theorem Sound.find?_move (hs : fs.Sound) (hl : fs.find? l ≠ some .dir) (hm : m ≠ [])
    (hlm : l ≠ m) (k : Location) :
    (fs.move l m).find? k =
      if k = m then fs.find? l else if k = l then none else fs.find? k := by
  have hlnil : l ≠ [] := by
    rintro rfl
    exact hl (find?_nil fs)
  by_cases hk : k = []
  · subst hk
    rw [find?_nil, if_neg (Ne.symm hm), if_neg (Ne.symm hlnil), find?_nil]
  · have herase : ∀ j, j ≠ [] → (fs.erase m).entries.lookup j =
        if j = m then none else fs.find? j := by
      intro j hj
      have h := find?_erase fs m hj
      rwa [find?, if_neg hj] at h
    rw [find?, if_neg hk, hs.entries_move hl, lookup_map_move l m hlm _ (fun x hx => by
      simpa [erase] using (List.mem_filter.1 hx).2), herase l hlnil, herase k hk, if_neg hlm]
    by_cases hkm : k = m
    · rw [if_pos hkm, if_pos hkm]
    · rw [if_neg hkm, if_neg hkm, if_neg hkm]

theorem Sound.create (hs : fs.Sound) (hl : fs.find? l = none)
    (hdir : fs.find? l.dropLast = some .dir) (hplain : ∀ n ∈ l, IsPlain n) :
    (fs.create l).1.Sound := by
  have hlnil := ne_nil_of_free hl
  have hkeep : ∀ k, fs.find? k = some .dir → (fs.create l).1.find? k = some .dir := by
    intro k hk
    rw [find?_create fs hlnil, if_neg, hk]
    rintro rfl
    simp [hl] at hk
  -- the new file is the only entry that may not have been there
  have hentries : ∀ x ∈ (fs.create l).1.entries, x = (l, .file fs.contents.size) ∨ x ∈ fs.entries := by
    intro x hx
    rcases List.mem_cons.1 hx with hx | hx
    · exact .inl hx
    · exact .inr (List.mem_filter.1 hx).1
  have hsize : (fs.create l).1.contents.size = fs.contents.size + 1 := Array.size_push _
  refine ⟨fun x hx => ?_, fun x hx id hid => ?_, fun x hx => ?_, hkeep _ hs.here⟩
  · rcases hentries x hx with rfl | hx
    · exact hkeep _ hdir
    · exact hkeep _ (hs.parents x hx)
  · rw [hsize]
    rcases hentries x hx with rfl | hx
    · obtain rfl := by simpa using hid
      exact Nat.lt_succ_self _
    · exact Nat.lt_succ_of_lt (hs.files x hx id hid)
  · rcases hentries x hx with rfl | hx
    · exact hplain
    · exact hs.plain x hx

theorem Sound.erase (hs : fs.Sound) (hl : fs.find? l ≠ some .dir) : (fs.erase l).Sound := by
  have hlnil : l ≠ [] := by
    rintro rfl
    exact hl (find?_nil fs)
  have hkeep : ∀ k, fs.find? k = some .dir → (fs.erase l).find? k = some .dir := by
    intro k hk
    rw [find?_erase_of_ne_nil fs hlnil, if_neg, hk]
    rintro rfl
    exact hl hk
  refine ⟨fun x hx => ?_, fun x hx => ?_, fun x hx => ?_, hkeep _ hs.here⟩
  · exact hkeep _ (hs.parents x (List.mem_filter.1 hx).1)
  · exact hs.files x (List.mem_filter.1 hx).1
  · exact hs.plain x (List.mem_filter.1 hx).1

theorem Sound.move (hs : fs.Sound) (hl : fs.find? l ≠ some .dir) (hm : fs.find? m ≠ some .dir)
    (hlm : l ≠ m) (hdir : fs.find? m.dropLast = some .dir) (hplain : ∀ n ∈ m, IsPlain n) :
    (fs.move l m).Sound := by
  have hmnil : m ≠ [] := by
    rintro rfl
    exact hm (find?_nil fs)
  have hkeep : ∀ k, fs.find? k = some .dir → (fs.move l m).find? k = some .dir := by
    intro k hk
    rw [hs.find?_move hl hmnil hlm, if_neg, if_neg, hk]
    · rintro rfl
      exact hl hk
    · rintro rfl
      exact hm hk
  -- an entry is still what it was, at its own place or where it was moved to
  have hentries : ∀ x ∈ (fs.move l m).entries,
      x ∈ fs.entries ∨ x.1 = m ∧ ∃ y ∈ fs.entries, x.2 = y.2 := by
    intro x hx
    rw [hs.entries_move hl] at hx
    obtain ⟨y, hy, rfl⟩ := List.mem_map.1 hx
    have hy := (List.mem_filter.1 hy).1
    split
    · exact .inr ⟨rfl, y, hy, rfl⟩
    · exact .inl hy
  refine ⟨fun x hx => ?_, fun x hx id hid => ?_, fun x hx => ?_, hkeep _ hs.here⟩
  · rcases hentries x hx with hx | ⟨hxm, -⟩
    · exact hkeep _ (hs.parents x hx)
    · rw [hxm]
      exact hkeep _ hdir
  · rcases hentries x hx with hx | ⟨-, y, hy, hxy⟩
    · exact hs.files x hx id hid
    · exact hs.files y hy id (hxy ▸ hid)
  · rcases hentries x hx with hx | ⟨hxm, -⟩
    · exact hs.plain x hx
    · rwa [hxm]

theorem Sound.append (hs : fs.Sound) (id : FileId) (bytes : ByteArray) :
    (fs.append id bytes).Sound := by
  refine ⟨hs.parents, fun x hx i hi => ?_, hs.plain, hs.here⟩
  rw [FileSystem.append, Array.size_modify]
  exact hs.files x hx i hi

end

theorem Sound.find?_of_leg {fs : FileSystem} (hs : fs.Sound) {follow : Bool} {l : Location}
    {ns : List Name} (hl : fs.find? l = some .dir) :
    (∀ d, leg fs follow l ns = .arrived ⟨d, some .dir⟩ → fs.find? d = some .dir) ∧
      ∀ l' target rest, leg fs follow l ns = .link l' target rest → fs.find? l' = some .dir := by
  induction l, ns using leg_induction fs with
  | nil l =>
    refine ⟨fun d h => ?_, fun l' target rest h => ?_⟩
    · obtain rfl : l = d := by simpa [leg] using h
      exact hl
    · simp [leg] at h
  | skip l n ns hn ih =>
    rw [leg_of_not_isName hn]
    exact ih hl
  | up l ns ih =>
    rw [leg_up]
    exact ih (hs.find?_dropLast hl)
  | long l n ns hn hup hb =>
    rw [leg_long hn hup hb]
    simp
  | enter l n ns hn hup hb hf ih =>
    rw [leg_cons hn hup hb, hf]
    exact ih hf
  | stop l n ns hn hup hb hf =>
    rw [leg_cons hn hup hb]
    cases he : fs.find? (l ++ [n]) with
    | none => by_cases hns : ns = [] <;> simp [hns]
    | some e =>
      cases e with
      | dir => exact absurd he hf
      | file id => by_cases hns : ns = [] <;> simp [hns]
      | link target =>
        dsimp only
        split
        · simp
        · -- the way goes on from the directory that the link is in
          refine ⟨fun d h => by simp at h, fun l' target rest h => ?_⟩
          obtain ⟨rfl, -, -⟩ := by simpa using h
          exact hl

theorem Sound.find?_of_walkFrom {fs : FileSystem} (hs : fs.Sound) {k : Nat} {l d : Location}
    {ns : List Name} (hl : fs.find? l = some .dir)
    (h : walkFrom fs true k l ns = .ok ⟨d, some .dir⟩) : fs.find? d = some .dir := by
  induction h using walkFrom_ok_induction with
  | arrived k l ns hleg => exact (hs.find?_of_leg hl).1 d hleg
  | link k l ns l' target rest hleg h ih =>
    refine ih ?_
    unfold origin
    split
    · exact find?_nil fs
    · exact (hs.find?_of_leg hl).2 l' target rest hleg

theorem Sound.find?_of_leads {fs : FileSystem} (hs : fs.Sound) {p : Path} {d : Location}
    (h : fs.Leads p d) : fs.find? d = some .dir := by
  refine hs.find?_of_walkFrom ?_ h
  unfold start
  split
  · exact hs.here
  · exact find?_nil fs

theorem find?_fresh (here : Location) (k : Nat) : (fresh here).find? (here.take k) = some .dir := by
  by_cases hl : here.take k = []
  · rw [hl]
    exact find?_nil _
  · have hmem : (here.take k, Entry.dir) ∈ (fresh here).entries := by
      refine List.mem_map.2 ⟨min k here.length - 1, List.mem_range.2 ?_, ?_⟩
      · have := List.length_pos_iff.2 hl
        rw [List.length_take] at this
        omega
      · have := List.length_pos_iff.2 hl
        rw [List.length_take] at this
        rw [show min k here.length - 1 + 1 = min k here.length by omega, ← List.take_eq_take_min]
    obtain ⟨e, he⟩ := Option.isSome_iff_exists.1
      (List.lookup_isSome_iff.2 ⟨_, hmem, beq_self_eq_true _⟩)
    obtain ⟨before, after, hes, -⟩ := List.lookup_eq_some_iff.1 he
    have hdir : (here.take k, e) ∈ (fresh here).entries := by
      rw [hes]
      simp
    obtain ⟨n, -, hn⟩ := List.mem_map.1 hdir
    rw [find?, if_neg hl, he, ← (Prod.mk.inj hn).2]

theorem sound_fresh {here : Location} (h : ∀ n ∈ here, IsPlain n) : (fresh here).Sound := by
  have hentries : ∀ e ∈ (fresh here).entries, ∃ k, e = (here.take (k + 1), .dir) := by
    intro e he
    obtain ⟨k, -, rfl⟩ := List.mem_map.1 he
    exact ⟨k, rfl⟩
  refine ⟨fun e he => ?_, fun e he id hid => ?_, fun e he n hn => ?_, ?_⟩
  · obtain ⟨k, rfl⟩ := hentries e he
    simp only [List.dropLast_eq_take, List.take_take]
    exact find?_fresh ..
  · obtain ⟨k, rfl⟩ := hentries e he
    simp at hid
  · obtain ⟨k, rfl⟩ := hentries e he
    exact h n (List.mem_of_mem_take hn)
  · have hhere := find?_fresh here here.length
    rwa [List.take_length] at hhere

end ProfilerBootstrap.FileSystem
