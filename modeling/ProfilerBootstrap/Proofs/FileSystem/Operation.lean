import ProfilerBootstrap.FileSystem.Operation

namespace ProfilerBootstrap.FileSystem

section
variable {fs fs' : FileSystem} {path : String}

theorem reach_eq_ok {follow : Bool} {q : Place} :
    fs.reach follow path = .ok q ↔ hasNull path = false ∧ fs.walk follow path = .ok q := by
  unfold reach
  cases hasNull path with
  | true => simp
  | false => cases fs.walk follow path <;> simp

theorem reach_eq_null {follow : Bool} :
    fs.reach follow path = .error .nullCharacter ↔ hasNull path = true := by
  unfold reach
  split
  · simp_all
  · split <;> simp_all

theorem mkdir_ok (h : fs.mkdir path = .ok fs') :
    ∃ l, fs.reach false path = .ok ⟨l, none⟩ ∧ fs' = fs.insert l .dir := by
  unfold mkdir at h
  cases hr : fs.reach false path with
  | error e => simp [hr, bind, Except.bind] at h
  | ok q =>
    obtain ⟨l, e⟩ := q
    cases e with
    | some e => simp [hr, bind, Except.bind, refuse] at h
    | none => exact ⟨l, rfl, by simpa [hr, bind, Except.bind, pure, Except.pure] using h.symm⟩

theorem mkdir_eq_null : fs.mkdir path = .error .nullCharacter ↔ hasNull path = true := by
  rw [← @reach_eq_null fs path false]
  unfold mkdir
  cases hr : fs.reach false path with
  | error e => simp [bind, Except.bind]
  | ok q =>
    obtain ⟨l, e⟩ := q
    cases e <;> simp [bind, Except.bind, refuse, pure, Except.pure]

theorem bytesAt_eq_null : fs.bytesAt path = .error .nullCharacter ↔ hasNull path = true := by
  rw [← @reach_eq_null fs path true]
  unfold bytesAt
  cases hr : fs.reach true path with
  | error e => simp [bind, Except.bind]
  | ok q =>
    obtain ⟨l, e⟩ := q
    match e with
    | none | some .dir | some (.link target) | some (.file id) =>
      simp [bind, Except.bind, refuse, pure, Except.pure]

theorem openAppend_ok {id : FileId} (h : fs.openAppend path = .ok (fs', id)) :
    fs' = fs ∨ ∃ l, fs' = (fs.create l).1 := by
  unfold openAppend at h
  cases hr : fs.reach true path with
  | error e => simp [hr, bind, Except.bind] at h
  | ok q =>
    obtain ⟨l, e⟩ := q
    match e with
    | none =>
      have hpair : fs.create l = (fs', id) := by
        simpa [hr, bind, Except.bind, pure, Except.pure] using h
      exact .inr ⟨l, (congrArg Prod.fst hpair).symm⟩
    | some (.file id') =>
      have hpair : fs = fs' ∧ id' = id := by
        simpa [hr, bind, Except.bind, pure, Except.pure] using h
      exact .inl hpair.1.symm
    | some .dir | some (.link target) => simp [hr, bind, Except.bind, refuse] at h

theorem openAppend_eq_null : fs.openAppend path = .error .nullCharacter ↔ hasNull path = true := by
  rw [← @reach_eq_null fs path true]
  unfold openAppend
  cases hr : fs.reach true path with
  | error e => simp [bind, Except.bind]
  | ok q =>
    obtain ⟨l, e⟩ := q
    match e with
    | none | some (.file id') | some .dir | some (.link target) =>
      simp [bind, Except.bind, refuse, pure, Except.pure]

theorem hasNull_of_openAppend {tried : Except Error (FileSystem × FileId)}
    (hopen : fs.openAppend path = tried) (hne : tried ≠ .error .nullCharacter) :
    hasNull path = false := by
  rw [← Bool.not_eq_true, ← openAppend_eq_null, hopen]
  exact hne

theorem unlink_ok (h : fs.unlink path = .ok fs') :
    ∃ q, fs.reach false path = .ok q ∧ fs' = fs.erase q.location := by
  unfold unlink at h
  cases hr : fs.reach false path with
  | error e => simp [hr, bind, Except.bind] at h
  | ok q =>
    refine ⟨q, rfl, ?_⟩
    obtain ⟨l, e⟩ := q
    rw [hr] at h
    match e with
    | none => simp [refuse, bind, Except.bind] at h
    | some .dir => simp [refuse, bind, Except.bind] at h
    | some (.file id) => exact (Except.ok.inj h).symm
    | some (.link target) => exact (Except.ok.inj h).symm

end

end ProfilerBootstrap.FileSystem
