import ProfilerBootstrap.Proofs.FileSystem.Reopen

namespace ProfilerBootstrap.FileSystem

def locate (fs : FileSystem) (p : Path) : Location := fs.start p ++ p.names

def NoLinks (fs : FileSystem) : Prop := ∀ l target, fs.find? l ≠ some (.link target)

/-- A file system to which directories have been added, all of them in certain places. -/
structure GrowsIn (P : Location → Prop) (fs fs' : FileSystem) : Prop extends Grows fs fs' where
  contents : fs'.contents = fs.contents
  place : ∀ l e, fs.find? l = none → fs'.find? l = some e → P l

/-- A file system in which nothing has been changed or taken away. What is new is a directory in one
of certain places, or an empty file in one of others. -/
structure AddsOnly (dirs files : Location → Prop) (fs fs' : FileSystem) : Prop where
  kept : ∀ l e, fs.find? l = some e → fs'.find? l = some e
  read : ∀ id, fs'.read id = fs.read id
  added : ∀ l e, fs.find? l = none → fs'.find? l = some e →
    e = .dir ∧ dirs l ∨
      files l ∧ ∃ id, e = .file id ∧ fs.contents.size ≤ id ∧ fs'.read id = .empty

section
variable {fs fs' fs'' : FileSystem} {P Q : Location → Prop}

theorem Grows.noLinks (h : Grows fs fs') (hlinks : fs.NoLinks) : fs'.NoLinks := by
  intro l target hl
  obtain hold | hdir := h.added l _ hl
  · exact hlinks l target hold
  · simp at hdir

theorem noLinks_of_entries (h : ∀ e ∈ fs.entries, ∀ target, e.2 ≠ .link target) : fs.NoLinks :=
  fun _ target hl => h _ (mem_of_find? hl (ne_nil_of_find? hl (by simp))) target rfl

theorem noLinks_fresh (here : Location) : (fresh here).NoLinks := by
  refine noLinks_of_entries fun e he target hlink => ?_
  obtain ⟨n, -, rfl⟩ := List.mem_map.1 he
  simp at hlink

theorem Grows.locate (h : Grows fs fs') (p : Path) : fs'.locate p = fs.locate p := by
  simp only [FileSystem.locate, start, h.here]

theorem GrowsIn.refl (P : Location → Prop) (fs : FileSystem) : GrowsIn P fs fs :=
  ⟨.refl fs, rfl, fun _ e hfree he => by simp [hfree] at he⟩

theorem GrowsIn.trans (h : GrowsIn P fs fs') (h' : GrowsIn P fs' fs'') : GrowsIn P fs fs'' where
  toGrows := h.toGrows.trans h'.toGrows
  contents := h'.contents.trans h.contents
  place l e hfree he := by
    cases hl : fs'.find? l with
    | none => exact h'.place l e hl he
    | some e' => exact h.place l e' hfree hl

theorem GrowsIn.mono (h : GrowsIn P fs fs') (hPQ : ∀ l, P l → Q l) : GrowsIn Q fs fs' :=
  ⟨h.toGrows, h.contents, fun l e hfree he => hPQ l (h.place l e hfree he)⟩

theorem growsIn_insert {l : Location} (hl : fs.find? l = none) (hP : P l) :
    GrowsIn P fs (fs.insert l .dir) := by
  refine ⟨grows_insert hl, rfl, fun m e hfree he => ?_⟩
  rw [find?_insert_of_ne_nil fs (ne_nil_of_free hl)] at he
  split at he
  · rename_i hm
    exact hm ▸ hP
  · simp [hfree] at he

theorem GrowsIn.addsOnly {dirs : Location → Prop} (h : GrowsIn dirs fs fs')
    (files : Location → Prop) : AddsOnly dirs files fs fs' where
  kept := h.kept
  read id := by rw [FileSystem.read, FileSystem.read, h.contents]
  added l e hfree he := by
    have hdir := (h.added l e he).resolve_left (by simp [hfree])
    exact .inl ⟨hdir, h.place l e hfree he⟩

theorem AddsOnly.mono {dirs files files' : Location → Prop} (h : AddsOnly dirs files fs fs')
    (hfiles : ∀ l, files l → files' l) : AddsOnly dirs files' fs fs' :=
  ⟨h.kept, h.read, fun l e hfree he => (h.added l e hfree he).imp_right fun ⟨hfile, hid⟩ =>
    ⟨hfiles l hfile, hid⟩⟩

theorem GrowsIn.create {dirs files : Location → Prop} (h : GrowsIn dirs fs fs') {l : Location}
    (hl : fs'.find? l = none) (hfile : files l) : AddsOnly dirs files fs (fs'.create l).1 := by
  have hfind := find?_create fs' (ne_nil_of_free hl)
  have hadds := h.addsOnly files
  refine ⟨fun m e he => ?_, fun id => (read_create_eq fs' l id).trans (hadds.read id),
    fun m e hfree he => ?_⟩
  · have hm : m ≠ l := by
      rintro rfl
      simp [h.kept _ _ he] at hl
    rw [hfind, if_neg hm]
    exact h.kept m e he
  · rw [hfind] at he
    by_cases hm : m = l
    · rw [if_pos hm] at he
      refine .inr ⟨hm ▸ hfile, fs'.contents.size, (Option.some.inj he).symm, ?_, ?_⟩
      · exact Nat.le_of_eq (congrArg Array.size h.contents).symm
      · exact read_create_self fs' l
    · rw [if_neg hm] at he
      have hdir := (h.added m e he).resolve_left (by simp [hfree])
      exact .inl ⟨hdir, h.place m e hfree he⟩

end

section
variable {fs fs' : FileSystem}

/-- Without links a way is never broken off, and without ways up it gets to what its names spell
out. -/
theorem NoLinks.leg_location (hlinks : fs.NoLinks) {follow : Bool} {l : Location} {ns : List Name}
    (hns : ∀ n ∈ ns, Path.isName n = true ∧ n ≠ ['.', '.']) :
    (∀ q, leg fs follow l ns = .arrived q → q.location = l ++ ns) ∧
      ∀ l' target rest, leg fs follow l ns ≠ .link l' target rest := by
  -- both parts together: where the way goes on, the names that are left add up to the same location
  induction l, ns using leg_induction fs with
  | nil l => simp [leg, eq_comm]
  | skip l n ns hn ih => simp [hn] at hns
  | up l ns ih => exact absurd rfl (hns _ List.mem_cons_self).2
  | long l n ns hn hup hs => simp [leg_long hn hup hs]
  | enter l n ns hn hup hs hf ih =>
    rw [leg_cons hn hup hs, hf]
    obtain ⟨hloc, hno⟩ := ih fun m hm => hns m (List.mem_cons_of_mem _ hm)
    exact ⟨fun q hq => (hloc q hq).trans (List.append_cons l n ns).symm, hno⟩
  | stop l n ns hn hup hs hf =>
    rw [leg_cons hn hup hs]
    cases he : fs.find? (l ++ [n]) with
    | none => by_cases hend : ns = [] <;> simp [hend, eq_comm]
    | some e =>
      cases e with
      | dir => exact absurd he hf
      | link target => exact absurd he (hlinks _ target)
      | file id => by_cases hend : ns = [] <;> simp [hend, eq_comm]

theorem NoLinks.location_of_reach (hlinks : fs.NoLinks) {p : Path} (hp : p.Normal)
    (hup : ['.', '.'] ∉ p.names) {follow : Bool} {q : Place}
    (h : fs.reach follow p.text = .ok q) : q.location = fs.locate p := by
  have hwalk := (reach_eq_ok.1 h).2
  rw [walk_text hp, if_neg (Nat.not_le.2 (byteLength_of_reach hp h))] at hwalk
  have hnames : ∀ n ∈ p.names, Path.isName n = true ∧ n ≠ ['.', '.'] :=
    fun n hn => ⟨(hp.names n hn).1, fun heq => hup (heq ▸ hn)⟩
  obtain ⟨hloc, hno⟩ := @NoLinks.leg_location fs hlinks follow (fs.start p) p.names hnames
  cases hleg : leg fs follow (fs.start p) p.names with
  | arrived q' =>
    obtain rfl := Except.ok.inj ((walkFrom_arrived hleg _).symm.trans hwalk)
    exact hloc q' hleg
  | refused c => simp [walkFrom_refused hleg] at hwalk
  | link l' target rest => exact absurd hleg (hno l' target rest)

/-- Making a path adds directories on the way to its location only. -/
theorem NoLinks.growsIn_makePath (hlinks : fs.NoLinks) {p : Path} (hp : p.Normal)
    (hup : ['.', '.'] ∉ p.names) : GrowsIn (· <+: fs.locate p) fs (fs.makePath p).1 := by
  refine makePathFrom_induction
    (S := fun q => q.Normal ∧ q.slashes = p.slashes ∧ q.names <+: p.names)
    (R := GrowsIn (· <+: fs.locate p) fs) ?_ ?_ _ ⟨hp, rfl, List.prefix_rfl⟩ (.refl _ fs)
  · rintro q ⟨hq, hslashes, hnames⟩
    exact ⟨hq.parent, hslashes, (List.dropLast_prefix _).trans hnames⟩
  · -- each directory that is made on the way is at the names of a front part of the path
    rintro q fs₁ fs₂ ⟨hq, hslashes, hnames⟩ hdone hgrows
    obtain ⟨l, hreach, rfl⟩ := mkdir_ok hdone
    have hnoUp : ['.', '.'] ∉ q.names := fun hmem => hup (hnames.subset hmem)
    have hl : l = fs₁.locate q :=
      (hgrows.noLinks hlinks).location_of_reach hq hnoUp hreach
    have hfree := (reach_free (reach_false_none hreach)).1
    refine hgrows.trans (growsIn_insert hfree ?_)
    rw [hl, hgrows.locate]
    simp only [FileSystem.locate, start, hslashes]
    exact (List.prefix_append_right_inj _).2 hnames

/-- Opening a file to write at its end adds nothing but the file, where the names of the path say.
-/
theorem NoLinks.openAppend_cases (hlinks : fs.NoLinks) {p : Path} (hp : p.Normal)
    (hup : ['.', '.'] ∉ p.names) {id : FileId} (h : fs.openAppend p.text = .ok (fs', id)) :
    fs' = fs ∨ fs.find? (fs.locate p) = none ∧ (fs', id) = fs.create (fs.locate p) := by
  unfold openAppend at h
  cases hreach : fs.reach true p.text with
  | error e => simp [hreach, bind, Except.bind] at h
  | ok q =>
    have hl := hlinks.location_of_reach hp hup hreach
    obtain ⟨l, e⟩ := q
    obtain rfl : l = fs.locate p := hl
    rw [hreach] at h
    match e with
    | none => exact .inr ⟨(reach_free hreach).1, (Except.ok.inj h).symm⟩
    | some (.file id') => exact .inl (Prod.mk.inj (Except.ok.inj h)).1.symm
    | some .dir | some (.link target) => simp [bind, Except.bind, refuse] at h

end

end ProfilerBootstrap.FileSystem
