import ProfilerBootstrap.Proofs.FileSystem.Directory
import ProfilerBootstrap.Proofs.FileSystem.Growth

namespace ProfilerBootstrap.FileSystem

/-- A path leads to a place in a directory where a file lies, or nothing. -/
structure Slot (fs : FileSystem) (path : String) (l : Location) : Prop where
  reach : fs.reach false path = .ok ⟨l, fs.find? l⟩
  plain : fs.NoDirOrLink l

/-- A path leads to a file itself, not to a link to one. -/
def FileAt (fs : FileSystem) (path : String) (l : Location) (id : FileId) : Prop :=
  fs.reach false path = .ok ⟨l, some (.file id)⟩

def bytesOf (fs : FileSystem) : Option Entry → Option ByteArray
  | some (.file id) => some (fs.read id)
  | _ => none

section
variable {fs fs' : FileSystem} {path target : String} {l m : Location} {id : FileId}

theorem noDirOrLink_of_free (h : fs.find? l = none) : fs.NoDirOrLink l := fun _ he => by
  simp [h] at he

theorem noDirOrLink_of_file (h : fs.find? l = some (.file id)) : fs.NoDirOrLink l := fun _ he =>
  ⟨id, Option.some.inj (he.symm.trans h)⟩

theorem FileAt.find? (h : fs.FileAt path l id) : fs.find? l = some (.file id) := by
  obtain ⟨-, -, -, hwalk⟩ := reach_ok_iff.1 h
  exact walkFrom_entry hwalk (by simp)

theorem FileAt.slot (h : fs.FileAt path l id) : fs.Slot path l :=
  ⟨h.find? ▸ h, noDirOrLink_of_file h.find?⟩

theorem Slot.fileAt (h : fs.Slot path l) (hid : fs.find? l = some (.file id)) :
    fs.FileAt path l id := by
  rw [FileAt, h.reach, hid]

theorem slot_of_reach {e : Option Entry} (h : fs.reach false path = .ok ⟨l, e⟩)
    (he : ∀ e', e = some e' → ∃ id, e' = .file id) : fs.Slot path l := by
  obtain ⟨-, -, -, hwalk⟩ := reach_ok_iff.1 h
  have hfind : fs.find? l = e := walkFrom_entry hwalk fun hdir => by simpa using he _ hdir
  exact ⟨hfind ▸ h, fun e' he' => he e' (hfind.symm.trans he')⟩

theorem Slot.mono (h : fs.Slot path l) (hhere : fs'.here = fs.here)
    (hkeep : ∀ m e, fs.find? m = some e → (∀ id, e ≠ .file id) → fs'.find? m = some e)
    (hplain : fs'.NoDirOrLink l) : fs'.Slot path l := by
  obtain ⟨hnull, hne, hlen, hwalk⟩ := reach_ok_iff.1 h.reach
  refine ⟨reach_ok_iff.2 ⟨hnull, hne, hlen, ?_⟩, hplain⟩
  rw [hhere]
  exact walkFrom_kept hwalk h.plain.noDir h.plain.noLink hkeep hplain.noLink

theorem Slot.reach_follow (h : fs.Slot path l) (follow : Bool) :
    fs.reach follow path = .ok ⟨l, fs.find? l⟩ := by
  cases follow with
  | false => exact h.reach
  | true =>
    obtain ⟨hnull, hwalk⟩ := reach_eq_ok.1 h.reach
    refine reach_eq_ok.2 ⟨hnull, ?_⟩
    obtain ⟨m, target, hlink, -⟩ | hsame := walk_follow fs path
    · rw [hwalk] at hlink
      obtain ⟨-, htarget⟩ := Place.mk.inj (Except.ok.inj hlink)
      exact absurd htarget (h.plain.noLink target)
    · rw [hsame, hwalk]

theorem Slot.status (h : fs.Slot path l) : fs.status path = .ok (fs.find? l) := by
  rw [FileSystem.status, h.reach_follow true]

theorem Slot.entryAt (h : fs.Slot path l) : fs.entryAt path = fs.find? l := by
  rw [FileSystem.entryAt, h.reach_follow true]

theorem Slot.exists? (h : fs.Slot path l) : fs.exists? path = (fs.find? l).isSome := by
  rw [FileSystem.exists?, h.entryAt]

theorem toOption_bytesAt (fs : FileSystem) (path : String) :
    (fs.bytesAt path).toOption = fs.bytesOf (fs.entryAt path) := by
  unfold bytesAt entryAt
  cases fs.reach true path with
  | error e => rfl
  | ok q =>
    obtain ⟨l, e⟩ := q
    match e with
    | none | some (.file id) | some .dir | some (.link target) => rfl

theorem Slot.toOption_bytesAt (h : fs.Slot path l) :
    (fs.bytesAt path).toOption = fs.bytesOf (fs.find? l) := by
  rw [FileSystem.toOption_bytesAt, h.entryAt]

theorem FileAt.unlink (h : fs.FileAt path l id) : fs.unlink path = .ok (fs.erase l) := by
  rw [FileAt] at h
  rw [FileSystem.unlink, h]
  rfl

theorem Sound.not_isWithin (hs : fs.Sound) (hl : fs.NoDirOrLink l)
    (hm : fs.find? m.dropLast = some .dir) (hne : l ≠ m) : isWithin l m = false := by
  rw [← Bool.not_eq_true]
  intro hw
  obtain ⟨rest, rfl⟩ := List.isPrefixOf_iff_prefix.1 hw
  have hrest : rest ≠ [] := by
    rintro rfl
    exact hne (List.append_nil l).symm
  rw [List.dropLast_append_of_ne_nil hrest] at hm
  by_cases hd : rest.dropLast = []
  · rw [hd, List.append_nil] at hm
    exact hl.noDir hm
  · exact hl.noDir (hs.isDir_of_below rest.dropLast hd hm)

/-- A file is moved to a place, whether another file lies there or none. -/
theorem FileAt.rename (h : fs.FileAt path l id) (hs : fs.Sound) (htarget : fs.Slot target m)
    (hdir : fs.find? m.dropLast = some .dir) (hne : l ≠ m) :
    fs.rename path target = .ok (fs.move l m) := by
  have hl : fs.NoDirOrLink l := h.slot.plain
  have hbelow : isWithin l m = false := hs.not_isWithin hl hdir hne
  have habove : isWithin m l = false :=
    hs.not_isWithin htarget.plain (hs.find?_dropLast h.find?) hne.symm
  have hmove : fs.moveRefused l (.file id) ⟨m, fs.find? m⟩ = none := by
    simp only [moveRefused, hbelow, habove, Bool.and_false, Bool.false_eq_true, if_false]
    cases hm : fs.find? m with
    | none => rfl
    | some e =>
      obtain ⟨id', rfl⟩ := htarget.plain e hm
      rfl
  obtain ⟨hnull, hwalk⟩ := reach_eq_ok.1 h
  obtain ⟨hnull', hwalk'⟩ := reach_eq_ok.1 htarget.reach
  obtain ⟨happroach, hname, hbare⟩ := approach_of_walk hwalk (by simp)
  obtain ⟨happroach', hname', hbare'⟩ := approach_of_walk hwalk' htarget.plain.noDir
  simp [FileSystem.rename, moveEntry, hnull, hnull', happroach, happroach', hname, hname', hbare,
    hbare', hwalk, hwalk', hne, hmove, bind, Except.bind]

/-- A place that a path read from a text leads to has a directory and a name that it can hold. -/
theorem Slot.exists_snoc {p : Path} (h : fs.Slot p.text l) (hs : fs.Sound) (hp : p.Normal) :
    ∃ d n, l = d ++ [n] ∧ fs.find? d = some .dir ∧ IsPlain n := by
  have hreach := h.reach_follow true
  obtain ⟨-, hwalk⟩ := reach_eq_ok.1 hreach
  rw [walk_text hp] at hwalk
  split at hwalk
  · simp at hwalk
  · by_cases hnil : p.names = []
    · -- without names it would be a directory that the path begins in
      rw [hnil, walkFrom_arrived (leg.eq_1 fs true _)] at hwalk
      simp only [Except.ok.injEq, Place.mk.injEq] at hwalk
      exact absurd hwalk.2.symm h.plain.noDir
    · obtain ⟨s, front, last, -, rfl, -⟩ := hp.exists_snoc hnil
      obtain ⟨d, hinit⟩ := walkFrom_init (List.cons_ne_nil last []) hwalk
      have hlead : fs.Leads ⟨s, front⟩ d := hinit
      by_cases hup : last = ['.', '.']
      · -- the way up leads to a directory
        subst hup
        obtain ⟨k, hk⟩ := walkFrom_append hinit
        have hlast := (hk true [['.', '.']] (by simp)).symm.trans hwalk
        rw [walkFrom_arrived (leg_up fs true d [])] at hlast
        simp only [Except.ok.injEq, Place.mk.injEq] at hlast
        exact absurd hlast.2.symm h.plain.noDir
      · obtain ⟨hfits, hplace⟩ := eq_of_reach_snoc hp hup hlead (by simp) h.reach
        refine ⟨d, last, (Place.mk.inj hplace).1, hs.find?_of_leads hlead, ?_⟩
        exact hfits.isPlain hp hup

end

/-- Two file systems are the same but for what lies at some locations. -/
structure SameBut (S : Location → Prop) (fs fs' : FileSystem) : Prop where
  here : fs'.here = fs.here
  find? : ∀ k, ¬ S k → fs'.find? k = fs.find? k
  read : ∀ k id, ¬ S k → fs.find? k = some (.file id) → fs'.read id = fs.read id

section
variable {fs fs' fs'' : FileSystem} {S S' : Location → Prop}

theorem SameBut.refl (S : Location → Prop) (fs : FileSystem) : SameBut S fs fs :=
  ⟨rfl, fun _ _ => rfl, fun _ _ _ _ => rfl⟩

theorem SameBut.mono (h : SameBut S fs fs') (hS : ∀ k, S k → S' k) : SameBut S' fs fs' :=
  ⟨h.here, fun k hk => h.find? k fun hin => hk (hS k hin),
    fun k id hk => h.read k id fun hin => hk (hS k hin)⟩

theorem SameBut.trans (h : SameBut S fs fs') (h' : SameBut S fs' fs'') : SameBut S fs fs'' where
  here := h'.here.trans h.here
  find? k hk := (h'.find? k hk).trans (h.find? k hk)
  read k id hk hid := (h'.read k id hk ((h.find? k hk).trans hid)).trans (h.read k id hk hid)

theorem SameBut.noDirOrLink (h : SameBut S fs fs') {k : Location} (hk : ¬ S k)
    (hplain : fs.NoDirOrLink k) : fs'.NoDirOrLink k := by
  intro e he
  rw [h.find? k hk] at he
  exact hplain e he

theorem SameBut.bytesOf (h : SameBut S fs fs') {k : Location} (hk : ¬ S k) :
    fs'.bytesOf (fs'.find? k) = fs.bytesOf (fs.find? k) := by
  rw [h.find? k hk]
  cases hid : fs.find? k with
  | none => rfl
  | some e =>
    cases e with
    | dir => rfl
    | link target => rfl
    | file id => exact congrArg some (h.read k id hk hid)

theorem SameBut.kept (h : SameBut S fs fs') (hplain : ∀ k, S k → fs.NoDirOrLink k) (k : Location)
    (e : Entry) (hk : fs.find? k = some e) (he : ∀ id, e ≠ .file id) : fs'.find? k = some e := by
  rw [h.find? k fun hin => (hplain k hin).find?_eq he hk, hk]

end

/-- Two file systems have the same directories and links. -/
structure SameTree (fs fs' : FileSystem) : Prop where
  here : fs'.here = fs.here
  find?_iff : ∀ l e, (∀ id, e ≠ .file id) → (fs'.find? l = some e ↔ fs.find? l = some e)

section
variable {fs fs' fs'' : FileSystem} {path : String} {l : Location}

theorem SameTree.refl (fs : FileSystem) : SameTree fs fs := ⟨rfl, fun _ _ _ => Iff.rfl⟩

theorem SameTree.symm (h : SameTree fs fs') : SameTree fs' fs :=
  ⟨h.here.symm, fun l e he => (h.find?_iff l e he).symm⟩

theorem SameTree.trans (h : SameTree fs fs') (h' : SameTree fs' fs'') : SameTree fs fs'' :=
  ⟨h'.here.trans h.here, fun l e he => (h'.find?_iff l e he).trans (h.find?_iff l e he)⟩

theorem SameTree.noDirOrLink (h : SameTree fs fs') (hplain : fs.NoDirOrLink l) :
    fs'.NoDirOrLink l := by
  intro e he
  by_cases hfile : ∃ id, e = .file id
  · exact hfile
  · have he' : ∀ id, e ≠ .file id := fun id hid => hfile ⟨id, hid⟩
    exact absurd ((h.find?_iff l e he').1 he) (hplain.find?_eq he')

/-- Which places a path leads to depends on directories and links alone. -/
theorem SameTree.slot_iff (h : SameTree fs fs') : fs'.Slot path l ↔ fs.Slot path l :=
  ⟨fun hl => hl.mono h.symm.here (fun m e hm he => (h.find?_iff m e he).1 hm)
      (h.symm.noDirOrLink hl.plain),
    fun hl => hl.mono h.here (fun m e hm he => (h.find?_iff m e he).2 hm)
      (h.noDirOrLink hl.plain)⟩

theorem SameTree.isFileOrFree (h : SameTree fs fs') (hfree : fs.IsFileOrFree path) :
    fs'.IsFileOrFree path := by
  rintro ⟨l, -⟩ e hq rfl
  by_cases hfile : ∃ id, e = .file id
  · exact hfile
  · -- a directory or a link would have been there before
    have he : ∀ id, e ≠ .file id := fun id hid => hfile ⟨id, hid⟩
    obtain ⟨hnull, hne, hlen, hwalk⟩ := reach_ok_iff.1 hq
    have hback := walkFrom_mono he (fun m e hm he => (h.find?_iff m e he).1 hm) hwalk
    rw [h.here] at hback
    exact hfree ⟨l, some e⟩ e (reach_ok_iff.2 ⟨hnull, hne, hlen, hback⟩) rfl

/-- A path at which neither a directory nor a link lies leads to a place for a file, if it leads
anywhere. -/
theorem IsFileOrFree.slot (h : fs.IsFileOrFree path) {q : Place}
    (hq : fs.reach false path = .ok q) : fs.Slot path q.location :=
  slot_of_reach (e := q.entry) hq fun e he => h q e hq he

theorem entryAt_of_status {e : Option Entry} (h : fs.status path = .ok e) : fs.entryAt path = e := by
  unfold status at h
  unfold entryAt
  cases hr : fs.reach true path with
  | ok q => simpa [hr] using h
  | error e =>
    cases e with
    | nullCharacter => simpa [hr] using h
    | refused r =>
      by_cases hcause : r.cause = .nameTooLong
      · simp [hr, hcause] at h
      · simpa [hr, hcause] using h

theorem IsFileOrFree.entryAt_eq_none (h : fs.IsFileOrFree path) (hnot : ∀ l, ¬ fs.Slot path l) :
    fs.entryAt path = none := by
  rw [FileSystem.entryAt]
  cases hq : fs.reach true path with
  | error e => rfl
  | ok q =>
    obtain ⟨hnull, hwalk⟩ := reach_eq_ok.1 hq
    obtain ⟨m, target, hlink, -, -⟩ | hsame := walk_follow fs path
    · have := h _ _ (reach_eq_ok.2 ⟨hnull, hlink⟩) rfl
      simp at this
    · exact absurd (h.slot (reach_eq_ok.2 ⟨hnull, hsame.symm.trans hwalk⟩)) (hnot _)

end

end ProfilerBootstrap.FileSystem
