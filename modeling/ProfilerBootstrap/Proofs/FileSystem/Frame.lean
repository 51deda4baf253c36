import ProfilerBootstrap.Proofs.FileSystem.Rename

namespace ProfilerBootstrap.FileSystem

/-- What a step on a path may do: relative paths begin where they began before, and a null character
is found only where there is one. -/
structure Honest (fs : FileSystem) (path : String) (done : Outcome) : Prop where
  here : done.1.here = fs.here
  null : done.2 = some .nullCharacter → hasNull path = true

section
variable {fs fs' : FileSystem} {path : String}

theorem here_openAppend {id : FileId} (h : fs.openAppend path = .ok (fs', id)) :
    fs'.here = fs.here := by
  obtain rfl | ⟨l, rfl⟩ := openAppend_ok h <;> rfl

theorem honest_forgive (fs : FileSystem) {e : Error} (h : fs.mkdir path = .error e) :
    fs.Honest path (fs.forgive path e) := by
  cases e with
  | nullCharacter => exact ⟨rfl, fun _ => mkdir_eq_null.1 h⟩
  | refused r =>
    refine ⟨rfl, fun hnull => ?_⟩
    simp only [forgive] at hnull
    split at hnull <;> simp at hnull

theorem honest_mkdir_ok (h : fs.mkdir path = .ok fs') : fs.Honest path (fs', none) := by
  obtain ⟨l, -, rfl⟩ := mkdir_ok h
  exact ⟨rfl, by simp⟩

theorem honest_makeLast (fs : FileSystem) (path : String) : fs.Honest path (fs.makeLast path) := by
  unfold makeLast
  split
  · rename_i fs' h
    exact honest_mkdir_ok h
  · rename_i e h
    split
    · refine ⟨rfl, fun hnull => ?_⟩
      obtain rfl : e = .nullCharacter := by simpa using hnull
      exact mkdir_eq_null.1 h
    · exact honest_forgive fs h

end

theorem hasNull_parent {p : Path} (h : hasNull p.parent.text = true) : hasNull p.text = true := by
  rw [hasNull_text] at h ⊢
  obtain ⟨n, hn, hnull⟩ := h
  exact ⟨n, List.dropLast_subset _ hn, hnull⟩

theorem Honest.trans {fs fs' : FileSystem} {path : String} {done : Outcome}
    (h : fs'.Honest path done) (hhere : fs'.here = fs.here) : fs.Honest path done :=
  ⟨h.here.trans hhere, h.null⟩

theorem honest_makePathFrom (n : Nat) (fs : FileSystem) (p : Path) :
    fs.Honest p.text (makePathFrom n fs p) := by
  induction n generalizing p with
  | zero =>
    unfold makePathFrom
    split
    · rename_i fs' h
      exact honest_mkdir_ok h
    · rename_i e h
      split
      · exact honest_forgive fs h
      · refine ⟨rfl, fun hnull => ?_⟩
        obtain rfl : e = .nullCharacter := by simpa using hnull
        exact mkdir_eq_null.1 h
  | succ n ih =>
    have hparent := ih p.parent
    unfold makePathFrom
    split
    · rename_i fs' h
      exact honest_mkdir_ok h
    · rename_i e h
      split
      · exact honest_forgive fs h
      · simp only
        split
        · -- a null character in the parent is one of the path itself
          rename_i fs' e' hrec
          rw [hrec] at hparent
          exact ⟨hparent.here, fun hnull => hasNull_parent (hparent.null hnull)⟩
        · rename_i fs' hrec
          rw [hrec] at hparent
          exact (honest_makeLast fs' p.text).trans hparent.here

theorem honest_makePath (fs : FileSystem) (p : Path) : fs.Honest p.text (fs.makePath p) :=
  honest_makePathFrom ..

theorem makePath_eq_null (fs : FileSystem) (p : Path) :
    (fs.makePath p).2 = some .nullCharacter ↔ hasNull p.text = true := by
  constructor
  · exact (honest_makePath fs p).null
  · intro h
    have hmk : fs.mkdir p.text = .error .nullCharacter := mkdir_eq_null.2 h
    unfold makePath makePathFrom
    simp [hmk, isMissing, forgive]

theorem honest_last (fs : FileSystem) (path : String) :
    fs.Honest path (match fs.mkdir path with
      | .ok fs => (fs, none)
      | .error e => fs.forgive path e) := by
  split
  · rename_i fs' h
    exact honest_mkdir_ok h
  · rename_i e h
    exact honest_forgive fs h

theorem honest_makeDirsFrom (n : Nat) (fs : FileSystem) (p : Path) :
    fs.Honest p.text (makeDirsFrom n fs p) := by
  induction n generalizing p with
  | zero => exact honest_last fs p.text
  | succ n ih =>
    have hparent := ih p.parent
    unfold makeDirsFrom
    simp only
    split
    · exact honest_last fs p.text
    · split
      · rename_i fs' _ _ hrec
        rw [hrec] at hparent
        exact (honest_last fs' p.text).trans hparent.here
      · rename_i fs' e _ hrec
        rw [hrec] at hparent
        exact ⟨hparent.here, fun hnull => hasNull_parent (hparent.null hnull)⟩
      · rename_i fs' hrec
        rw [hrec] at hparent
        exact (honest_last fs' p.text).trans hparent.here

theorem honest_makeDirs (fs : FileSystem) (p : Path) : fs.Honest p.text (fs.makeDirs p) :=
  honest_makeDirsFrom ..

/-- A property of file systems that no single operation on entries takes away. -/
structure KeptByEntries (R : FileSystem → Prop) : Prop where
  mkdir : ∀ {fs fs' : FileSystem} {path : String}, fs.mkdir path = .ok fs' → R fs → R fs'
  unlink : ∀ {fs fs' : FileSystem} {path : String}, fs.unlink path = .ok fs' → R fs → R fs'
  rename : ∀ {fs fs' : FileSystem} {path target : String},
    fs.rename path target = .ok fs' → R fs → R fs'
  openAppend : ∀ {fs fs' : FileSystem} {path : String} {id : FileId},
    fs.openAppend path = .ok (fs', id) → R fs → R fs'

/-- A property of file systems that no single operation takes away. -/
structure Kept (R : FileSystem → Prop) : Prop extends KeptByEntries R where
  append : ∀ {fs : FileSystem} (id : FileId) (bytes : ByteArray), R fs → R (fs.append id bytes)

theorem kept_here (here : Location) : Kept fun fs => fs.here = here where
  mkdir hdone h := by
    obtain ⟨l, -, rfl⟩ := mkdir_ok hdone
    exact h
  unlink hdone h := by
    obtain ⟨q, -, rfl⟩ := unlink_ok hdone
    exact h
  rename hdone h := by
    obtain ⟨q, aim, e, -, -, -, ⟨-, rfl⟩ | ⟨-, rfl⟩⟩ := rename_ok hdone <;> exact h
  openAppend hdone h := (here_openAppend hdone).trans h
  append _ _ h := h

section
variable {R : FileSystem → Prop} {fs : FileSystem}

theorem keeps_attempt (h : R fs) {done : Except Error FileSystem}
    (hdone : ∀ fs', done = .ok fs' → R fs') : R (fs.attempt done).1 := by
  cases done with
  | ok fs' => exact hdone fs' rfl
  | error e => exact h

theorem keeps_andThen {done : Outcome} {next : FileSystem → Outcome} (h : R done.1)
    (hnext : ∀ fs, R fs → R (next fs).1) : R (done.andThen next).1 := by
  obtain ⟨fs, e⟩ := done
  cases e with
  | none => exact hnext fs h
  | some e => exact h

theorem keeps_forgive (h : R fs) (path : String) (e : Error) : R (fs.forgive path e).1 := by
  cases e <;> exact h

/-- Whatever holds of a file system after each directory that is made, for a path or a parent of it,
and held before, holds after the path was made, also where making it was refused. -/
theorem makePathFrom_induction {S : Path → Prop} (hparent : ∀ p, S p → S p.parent)
    (hmkdir : ∀ {p : Path} {fs fs' : FileSystem}, S p → fs.mkdir p.text = .ok fs' → R fs → R fs')
    (n : Nat) {p : Path} (hp : S p) (h : R fs) : R (makePathFrom n fs p).1 := by
  induction n generalizing p with
  | zero =>
    unfold makePathFrom
    split
    · rename_i fs' hdone
      exact hmkdir hp hdone h
    · split
      · exact keeps_forgive h ..
      · exact h
  | succ n ih =>
    have hfront := ih (hparent p hp)
    unfold makePathFrom
    split
    · rename_i fs' hdone
      exact hmkdir hp hdone h
    · split
      · exact keeps_forgive h ..
      · simp only
        split
        · rename_i fs' e' hrec
          rwa [hrec] at hfront
        · rename_i fs' hrec
          rw [hrec] at hfront
          unfold makeLast
          split
          · rename_i fs'' hdone
            exact hmkdir hp hdone hfront
          · split
            · exact hfront
            · exact keeps_forgive hfront ..

theorem KeptByEntries.makePath (hR : KeptByEntries R) (h : R fs) (p : Path) :
    R (fs.makePath p).1 :=
  makePathFrom_induction (S := fun _ => True) (fun _ _ => trivial) (fun _ => hR.mkdir) _ trivial h

theorem KeptByEntries.makeDirsFrom (hR : KeptByEntries R) (n : Nat) (h : R fs) (p : Path) :
    R (makeDirsFrom n fs p).1 := by
  -- the last step is the same wherever the making of the parents ends
  have hlast : ∀ {fs : FileSystem} (p : Path), R fs →
      R (match fs.mkdir p.text with
        | .ok fs => (fs, none)
        | .error e => fs.forgive p.text e).1 := by
    intro fs p h
    split
    · rename_i fs' hdone
      exact hR.mkdir hdone h
    · exact keeps_forgive h ..
  induction n generalizing p with
  | zero => exact hlast p h
  | succ n ih =>
    have hparent := ih p.parent
    unfold FileSystem.makeDirsFrom
    simp only
    split
    · exact hlast p h
    · split
      · rename_i fs' _ _ hrec
        rw [hrec] at hparent
        exact hlast p hparent
      · rename_i fs' e _ hrec
        rw [hrec] at hparent
        exact hparent
      · rename_i fs' hrec
        rw [hrec] at hparent
        exact hlast p hparent

theorem KeptByEntries.makeDirs (hR : KeptByEntries R) (h : R fs) (p : Path) :
    R (fs.makeDirs p).1 :=
  hR.makeDirsFrom _ h p

end

end ProfilerBootstrap.FileSystem
