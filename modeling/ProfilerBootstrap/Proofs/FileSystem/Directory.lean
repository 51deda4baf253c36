import ProfilerBootstrap.Proofs.FileSystem.Rename
import ProfilerBootstrap.Proofs.FileSystem.Sound

namespace ProfilerBootstrap.FileSystem

def NoDirOrLink (fs : FileSystem) (l : Location) : Prop :=
  ∀ e, fs.find? l = some e → ∃ id, e = .file id

section
variable {fs fs' : FileSystem} {s t : Nat} {ns ms : List Name} {n m : Name} {d : Location}

theorem NoDirOrLink.noLink {l : Location} (h : fs.NoDirOrLink l) (target : List Char) :
    fs.find? l ≠ some (.link target) := by
  intro hl
  obtain ⟨id, hid⟩ := h _ hl
  simp at hid

theorem NoDirOrLink.noDir {l : Location} (h : fs.NoDirOrLink l) : fs.find? l ≠ some .dir := by
  intro hl
  obtain ⟨id, hid⟩ := h _ hl
  simp at hid

def IsFree (fs : FileSystem) (path : String) : Prop :=
  ∀ q, fs.reach false path = .ok q → q.entry = none

/-- What lies at a path, if anything does, is a file and no link to one. -/
def IsFileOrFree (fs : FileSystem) (path : String) : Prop :=
  ∀ q e, fs.reach false path = .ok q → q.entry = some e → ∃ id, e = .file id

theorem isFree_of_toOption {path : String} {l : Location}
    (h : (fs.reach false path).toOption = some ⟨l, none⟩) : fs.IsFree path := by
  intro q hq
  rw [hq] at h
  rw [Option.some.inj h]

theorem bytesAt_of_contentAt {path : String} (h : (fs.contentAt path).size ≠ 0) :
    fs.bytesAt path = .ok (fs.contentAt path) := by
  unfold contentAt at h ⊢
  cases hbytes : fs.bytesAt path with
  | ok bytes => rfl
  | error e =>
    rw [hbytes] at h
    exact absurd rfl h

theorem eq_of_reach_snoc (hp : Path.Normal ⟨s, ns ++ [n]⟩) (hup : n ≠ ['.', '.'])
    (hlead : fs.Leads ⟨s, ns⟩ d) {follow : Bool}
    (hlink : follow = true → Fits s ns n → fs.NoDirOrLink (d ++ [n])) {q : Place}
    (h : fs.reach follow (Path.text ⟨s, ns ++ [n]⟩) = .ok q) :
    Fits s ns n ∧ q = ⟨d ++ [n], fs.find? (d ++ [n])⟩ := by
  obtain ⟨hfits, -⟩ := of_reach_snoc hp hup h
  refine ⟨hfits, ?_⟩
  rw [reach_snoc hp hup hfits hlead fun hf => (hlink hf hfits).noLink] at h
  exact (Except.ok.inj h).symm

theorem entryAt_snoc (hp : Path.Normal ⟨s, ns ++ [n]⟩) (hup : n ≠ ['.', '.']) (hfits : Fits s ns n)
    (hlead : fs.Leads ⟨s, ns⟩ d) (hplain : fs.NoDirOrLink (d ++ [n])) :
    fs.entryAt (Path.text ⟨s, ns ++ [n]⟩) = fs.find? (d ++ [n]) := by
  rw [entryAt, reach_snoc hp hup hfits hlead fun _ => hplain.noLink]

theorem IsFree.find?_eq_none (hp : Path.Normal ⟨s, ns ++ [n]⟩) (hup : n ≠ ['.', '.'])
    (hlead : fs.Leads ⟨s, ns⟩ d) (h : fs.IsFree (Path.text ⟨s, ns ++ [n]⟩)) (hfits : Fits s ns n) :
    fs.find? (d ++ [n]) = none :=
  h _ (reach_snoc hp hup hfits hlead (by simp))

theorem exists?_snoc (hp : Path.Normal ⟨s, ns ++ [n]⟩) (hup : n ≠ ['.', '.']) (hfits : Fits s ns n)
    (hlead : fs.Leads ⟨s, ns⟩ d) (hplain : fs.NoDirOrLink (d ++ [n])) :
    fs.exists? (Path.text ⟨s, ns ++ [n]⟩) = (fs.find? (d ++ [n])).isSome := by
  rw [exists?, entryAt_snoc hp hup hfits hlead hplain]

theorem exists?_of_not_fits (hp : Path.Normal ⟨s, ns ++ [n]⟩) (hup : n ≠ ['.', '.'])
    (hfits : ¬ Fits s ns n) : fs.exists? (Path.text ⟨s, ns ++ [n]⟩) = false := by
  rw [exists?, entryAt]
  cases hr : fs.reach true (Path.text ⟨s, ns ++ [n]⟩) with
  | error e => rfl
  | ok q => exact absurd (of_reach_snoc hp hup hr).1 hfits

theorem contentAt_snoc (hp : Path.Normal ⟨s, ns ++ [n]⟩) (hup : n ≠ ['.', '.']) (hfits : Fits s ns n)
    (hlead : fs.Leads ⟨s, ns⟩ d) (hplain : fs.NoDirOrLink (d ++ [n])) :
    fs.contentAt (Path.text ⟨s, ns ++ [n]⟩) = match fs.find? (d ++ [n]) with
      | some (.file id) => fs.read id
      | _ => .empty := by
  rw [contentAt, bytesAt, reach_snoc hp hup hfits hlead fun _ => hplain.noLink]
  cases hf : fs.find? (d ++ [n]) with
  | none => rfl
  | some e =>
    obtain ⟨id, rfl⟩ := hplain e hf
    rfl

theorem bytesAt_snoc (hp : Path.Normal ⟨s, ns ++ [n]⟩) (hup : n ≠ ['.', '.']) (hfits : Fits s ns n)
    (hlead : fs.Leads ⟨s, ns⟩ d) {id : FileId} (hfile : fs.find? (d ++ [n]) = some (.file id)) :
    fs.bytesAt (Path.text ⟨s, ns ++ [n]⟩) = .ok (fs.read id) := by
  rw [bytesAt, reach_snoc hp hup hfits hlead fun _ target h => by simp [hfile] at h, hfile]
  rfl

theorem fits_of_status (hp : Path.Normal ⟨s, ns ++ [n]⟩) (hup : n ≠ ['.', '.'])
    (hnull : hasNull (Path.text ⟨s, ns ++ [n]⟩) = false) (hlead : fs.Leads ⟨s, ns⟩ d)
    {e : Option Entry} (h : fs.status (Path.text ⟨s, ns ++ [n]⟩) = .ok e) : Fits s ns n := by
  refine ⟨hnull, Nat.not_le.1 fun hlong => ?_, Nat.not_lt.1 fun hlong => ?_⟩
  · have hwalk := walk_text hp fs true
    rw [if_pos hlong] at hwalk
    simp [status, reach, hnull, hwalk] at h
  · obtain ⟨k', hk'⟩ := walkFrom_append hlead
    have hlast := hk' true [n] (by simp)
    rw [walkFrom_single_long (hp.names n (by simp)).1 hup hlong] at hlast
    have hwalk : fs.walk true (Path.text ⟨s, ns ++ [n]⟩) = .error .nameTooLong := by
      rw [walk_text hp]
      split
      · rfl
      · exact hlast
    simp [status, reach, hnull, hwalk] at h

theorem noDir_of_moveRefused {l : Location} {id : FileId} {q : Place}
    (h : fs.moveRefused l (.file id) q = none) : q.entry ≠ some .dir := by
  intro hq
  simp only [moveRefused, hq] at h
  split at h
  · simp at h
  · split at h <;> simp at h

/-- A file that is moved within a directory is found at its new name only. -/
theorem rename_snoc (hp : Path.Normal ⟨s, ns ++ [n]⟩) (hup : n ≠ ['.', '.'])
    (hq : Path.Normal ⟨t, ms ++ [m]⟩) (hup' : m ≠ ['.', '.']) (hlead : fs.Leads ⟨s, ns⟩ d)
    (hlead' : fs.Leads ⟨t, ms⟩ d) (hnm : n ≠ m) {id : FileId}
    (hfile : fs.find? (d ++ [n]) = some (.file id))
    (h : fs.rename (Path.text ⟨s, ns ++ [n]⟩) (Path.text ⟨t, ms ++ [m]⟩) = .ok fs') :
    Fits t ms m ∧ fs.find? (d ++ [m]) ≠ some .dir ∧ fs' = fs.move (d ++ [n]) (d ++ [m]) := by
  obtain ⟨p, q, e, hp', hq', he, hmove⟩ := rename_text_ok hp hq h
  obtain ⟨-, rfl⟩ := eq_of_reach_snoc hp hup hlead (by simp) hp'
  obtain ⟨hfits, rfl⟩ := eq_of_reach_snoc hq hup' hlead' (by simp) hq'
  obtain rfl : Entry.file id = e := by simpa [hfile] using he
  obtain ⟨heq, -⟩ | ⟨hmove, rfl⟩ := hmove
  · exact absurd heq (by simpa using hnm)
  · exact ⟨hfits, noDir_of_moveRefused hmove.2, rfl⟩

theorem openAppend_snoc (hp : Path.Normal ⟨s, ns ++ [n]⟩) (hup : n ≠ ['.', '.'])
    (hlead : fs.Leads ⟨s, ns⟩ d) (hplain : Fits s ns n → fs.NoDirOrLink (d ++ [n])) {id : FileId}
    (h : fs.openAppend (Path.text ⟨s, ns ++ [n]⟩) = .ok (fs', id)) :
    Fits s ns n ∧ (fs.find? (d ++ [n]) = none ∧ (fs', id) = fs.create (d ++ [n]) ∨
      fs.find? (d ++ [n]) = some (.file id) ∧ fs' = fs) := by
  unfold openAppend at h
  cases hr : fs.reach true (Path.text ⟨s, ns ++ [n]⟩) with
  | error e => simp [hr, bind, Except.bind] at h
  | ok q =>
    obtain ⟨hfits, rfl⟩ := eq_of_reach_snoc hp hup hlead (fun _ => hplain) hr
    refine ⟨hfits, ?_⟩
    rw [hr] at h
    cases hf : fs.find? (d ++ [n]) with
    | none =>
      rw [hf] at h
      exact .inl ⟨rfl, (Except.ok.inj h).symm⟩
    | some e =>
      obtain ⟨i, rfl⟩ := hplain hfits e hf
      rw [hf] at h
      obtain ⟨rfl, rfl⟩ := Prod.mk.inj (Except.ok.inj h)
      exact .inr ⟨rfl, rfl⟩

end

theorem leads_of_isDir {fs : FileSystem} {p : Path} (hp : p.Normal) (h : fs.isDir p.text = true) :
    ∃ d, fs.Leads p d := by
  have h : fs.entryAt p.text = some .dir := by simpa [isDir] using h
  unfold entryAt at h
  split at h
  · rename_i q hq
    obtain ⟨d, e⟩ := q
    have hwalk := (reach_eq_ok.1 hq).2
    rw [walk_text hp] at hwalk
    split at hwalk
    · simp at hwalk
    · obtain rfl : e = some .dir := h
      exact ⟨d, hwalk⟩
  · simp at h

section
variable {fs : FileSystem} {p : Path} {d : Location}

theorem Leads.mkdir_ne_ok (hlead : fs.Leads p d) (hp : p.Normal) (fs' : FileSystem) :
    fs.mkdir p.text ≠ .ok fs' := by
  intro h
  unfold mkdir at h
  cases hr : fs.reach false p.text with
  | error e => simp [hr, bind, Except.bind] at h
  | ok q =>
    obtain ⟨m, e⟩ := q
    rw [hr] at h
    cases e with
    | some e => simp [refuse, bind, Except.bind] at h
    | none =>
      have hwalk := (reach_eq_ok.1 hr).2
      rw [walk_text hp] at hwalk
      split at hwalk
      · simp at hwalk
      · have htrue := walkFrom_false_none hwalk
        unfold Leads at hlead
        rw [hlead] at htrue
        simp at htrue

theorem forgive_fst (fs : FileSystem) (path : String) (e : Error) : (fs.forgive path e).1 = fs := by
  cases e <;> rfl

theorem Leads.parent (hlead : fs.Leads p d) (hp : p.Normal) (h : p.names ≠ []) :
    p.parent.Normal ∧ ∃ d', fs.Leads p.parent d' := by
  obtain ⟨s, front, last, -, rfl, hparent⟩ := hp.exists_snoc h
  rw [hparent]
  exact ⟨hp.init, hlead.init⟩

theorem Leads.makeLast_fst (hlead : fs.Leads p d) (hp : p.Normal) :
    (match fs.mkdir p.text with
      | .ok fs => (fs, none)
      | .error e => fs.forgive p.text e).1 = fs := by
  cases h : fs.mkdir p.text with
  | ok fs' => exact absurd h (hlead.mkdir_ne_ok hp fs')
  | error e => exact forgive_fst fs p.text e

theorem Leads.makeDirsFrom_fst (n : Nat) (hlead : fs.Leads p d) (hp : p.Normal) :
    (makeDirsFrom n fs p).1 = fs := by
  induction n generalizing p d with
  | zero => exact hlead.makeLast_fst hp
  | succ n ih =>
    rw [makeDirsFrom]
    split
    · exact hlead.makeLast_fst hp
    · rename_i hparent
      have hne : p.names ≠ [] := fun h => hparent (.inl (by simp [Path.parent, h]))
      obtain ⟨hp', d', hlead'⟩ := hlead.parent hp hne
      -- the parent is a directory as well, so nothing was made on the way to it
      have h := ih hlead' hp'
      split
      · rename_i hm
        rw [hm] at h
        subst h
        exact hlead.makeLast_fst hp
      · rename_i hm
        rwa [hm] at h
      · rename_i hm
        rw [hm] at h
        subst h
        exact hlead.makeLast_fst hp

theorem Leads.makeDirs_fst (hlead : fs.Leads p d) (hp : p.Normal) : (fs.makeDirs p).1 = fs :=
  hlead.makeDirsFrom_fst _ hp

end

theorem Fits.isPlain {s : Nat} {ns : List Name} {n : Name} (h : Fits s ns n)
    (hp : Path.Normal ⟨s, ns ++ [n]⟩) (hup : n ≠ ['.', '.']) : IsPlain n := by
  have hmem : n ∈ ns ++ [n] := by simp
  refine ⟨(hp.names n hmem).1, hup, (hp.names n hmem).2, fun hnull => ?_, h.name⟩
  have := (hasNull_text ⟨s, ns ++ [n]⟩).2 ⟨n, hmem, hnull⟩
  simp [h.noNull] at this

/-- A file system that has what another one had, save for the places of files. -/
structure Keeps (fs fs' : FileSystem) : Prop where
  sound : fs'.Sound
  here : fs'.here = fs.here
  size : fs.contents.size ≤ fs'.contents.size
  read : ∀ id, id < fs.contents.size → fs'.read id = fs.read id
  kept : ∀ l e, fs.find? l = some e → (∀ id, e ≠ .file id) → fs'.find? l = some e

section
variable {fs fs' fs'' : FileSystem} {l m d : Location} {n : Name}

theorem Keeps.refl (hs : fs.Sound) : Keeps fs fs :=
  ⟨hs, rfl, Nat.le_refl _, fun _ _ => rfl, fun _ _ h _ => h⟩

theorem Keeps.trans (h : Keeps fs fs') (h' : Keeps fs' fs'') : Keeps fs fs'' where
  sound := h'.sound
  here := h'.here.trans h.here
  size := Nat.le_trans h.size h'.size
  read id hid := (h'.read id (Nat.lt_of_lt_of_le hid h.size)).trans (h.read id hid)
  kept l e hl he := h'.kept l e (h.kept l e hl he) he

theorem Keeps.leads (h : Keeps fs fs') {p : Path} (hlead : fs.Leads p d) : fs'.Leads p d :=
  hlead.mono h.here h.kept

theorem NoDirOrLink.find?_eq (h : fs.NoDirOrLink l) {e : Entry} (he : ∀ id, e ≠ .file id) :
    fs.find? l ≠ some e := by
  intro hl
  obtain ⟨id, rfl⟩ := h e hl
  exact he id rfl

theorem Sound.keeps_erase (hs : fs.Sound) (hl : fs.NoDirOrLink (d ++ [n])) :
    Keeps fs (fs.erase (d ++ [n])) where
  sound := hs.erase hl.noDir
  here := rfl
  size := Nat.le_refl _
  read _ _ := rfl
  kept k e hk he := by
    rw [find?_erase_of_ne_nil fs (by simp), if_neg, hk]
    rintro rfl
    exact hl.find?_eq he hk

theorem Sound.keeps_move (hs : fs.Sound) {id : FileId} (hl : fs.find? l = some (.file id))
    (hm : fs.NoDirOrLink (d ++ [n])) (hlm : l ≠ d ++ [n]) (hdir : fs.find? d = some .dir)
    (hplain : IsPlain n) : Keeps fs (fs.move l (d ++ [n])) where
  sound := by
    refine hs.move (by simp [hl]) hm.noDir hlm (by simpa using hdir) fun k hk => ?_
    rcases List.mem_append.1 hk with hk | hk
    · exact hs.plain_of_find? hdir k hk
    · obtain rfl := List.mem_singleton.1 hk
      exact hplain
  here := rfl
  size := Nat.le_refl _
  read _ _ := rfl
  kept k e hk he := by
    rw [hs.find?_move (by simp [hl]) (by simp) hlm, if_neg, if_neg, hk]
    · rintro rfl
      exact he id (by simpa [hl] using hk.symm)
    · rintro rfl
      exact hm.find?_eq he hk

theorem Sound.keeps_create (hs : fs.Sound) (hl : fs.find? (d ++ [n]) = none)
    (hdir : fs.find? d = some .dir) (hplain : IsPlain n) : Keeps fs (fs.create (d ++ [n])).1 where
  sound := by
    refine hs.create hl (by simpa using hdir) fun k hk => ?_
    rcases List.mem_append.1 hk with hk | hk
    · exact hs.plain_of_find? hdir k hk
    · obtain rfl := List.mem_singleton.1 hk
      exact hplain
  here := rfl
  size := by
    have hsize : (fs.create (d ++ [n])).1.contents.size = fs.contents.size + 1 := Array.size_push _
    omega
  read id hid := read_create fs _ hid
  kept k e hk he := by
    rw [find?_create fs (by simp), if_neg, hk]
    rintro rfl
    simp [hl] at hk

end

end ProfilerBootstrap.FileSystem
