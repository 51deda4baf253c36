import ProfilerBootstrap.Proofs.FileSystem.Making
import ProfilerBootstrap.Proofs.LogDirectory

namespace ProfilerBootstrap.LogDirectory

open FileSystem

/-- How two directories stand when nothing more is to be made: the one that is wanted is there, or
it cannot be made; and then the default one is there, or it cannot be made either. -/
inductive Stands (fs : FileSystem) (wanted default : Path) : Resolution → Prop
  | wanted (h : fs.isDir wanted.text = true) : Stands fs wanted default ⟨wanted, true⟩
  | default (hbarred : Barred fs wanted) (h : fs.isDir default.text = true) :
    Stands fs wanted default ⟨default, true⟩
  | neither (hbarred : Barred fs wanted) (h : Barred fs default) :
    Stands fs wanted default ⟨default, false⟩

section
variable {fs : FileSystem} {path : Path}

theorem makes_create (fs : FileSystem) (hpath : path.Normal) :
    Grows fs (create fs path).1 ∧
      ((create fs path).2.value = .ok true → (create fs path).1.isDir path.text = true) ∧
      (fs.NoDangling → (create fs path).2.value = .ok false →
        Barred (create fs path).1 path) := by
  have h := @makes_makePath fs path hpath
  unfold create
  generalize fs.makePath path = done at h ⊢
  obtain ⟨fs', e⟩ := done
  cases e with
  | none => exact ⟨h.grows, fun _ => h.made rfl, fun _ hno => by simp [pure] at hno⟩
  | some e =>
    cases e with
    | refused r =>
      exact ⟨h.grows, fun hyes => by simp [Logged.value_bind, pure] at hyes,
        fun hlinks _ => h.barred hlinks r rfl⟩
    | nullCharacter =>
      exact ⟨h.grows, fun hyes => by simp [pure] at hyes, fun _ hno => by simp [pure] at hno⟩

theorem create_of_isDir (h : fs.isDir path.text = true) : create fs path = (fs, return .ok true) := by
  rw [create, makePath_of_isDir h]

theorem create_of_barred (h : Barred fs path) :
    ∃ records, create fs path = (fs, ⟨.ok false, records⟩) := by
  obtain ⟨r, hr⟩ := h.makePath
  rw [create, hr]
  exact ⟨_, rfl⟩

end

section
variable {fs : FileSystem} {wanted default : Path} {r : Resolution}

theorem barred_of_exists (h : fs.exists? wanted.text = true) (hno : fs.isDir wanted.text = false) :
    Barred fs wanted := by
  obtain ⟨d, e, hreach⟩ := exists?_iff.1 h
  obtain ⟨hnull, hwalk⟩ := reach_eq_ok.1 hreach
  exact ⟨hnull, hwalk ▸ settled_ok d e, hno⟩

/-- One begins with the directory that is wanted, unless it cannot be made. -/
theorem candidate_cases (fs : FileSystem) (wanted default : Path) :
    (candidate fs wanted default).value = wanted ∨
      (candidate fs wanted default).value = default ∧ Barred fs wanted := by
  unfold candidate
  split
  · rename_i h
    rw [Bool.and_eq_true] at h
    exact .inr ⟨rfl, barred_of_exists h.1 (by simpa using h.2)⟩
  · exact .inl rfl

theorem candidate_of_isDir (h : fs.isDir wanted.text = true) (default : Path) :
    (candidate fs wanted default).value = wanted := by
  unfold candidate
  rw [if_neg (by simp [h])]
  rfl

theorem ensure_of_isDir {first : Path} (h : fs.isDir first.text = true) (default : Path) :
    ensure fs first default = (fs, return .ok ⟨first, true⟩) := by
  rw [ensure, if_pos h]

theorem ensure_of_barred (h : Barred fs default) :
    ∃ records, ensure fs default default = (fs, ⟨.ok ⟨default, false⟩, records⟩) := by
  obtain ⟨records, hcreate⟩ := create_of_barred h
  rw [ensure, if_neg (by simp [h.noDir]), hcreate]
  simp only [if_true]
  exact ⟨records, rfl⟩

theorem Stands.ensure (h : Stands fs wanted default r) :
    ∃ records, LogDirectory.ensure fs (candidate fs wanted default).value default =
      (fs, ⟨.ok r, records⟩) := by
  cases h with
  | wanted h =>
    rw [candidate_of_isDir h, ensure_of_isDir h]
    exact ⟨_, rfl⟩
  | default hbarred h =>
    obtain hfirst | ⟨hfirst, -⟩ := candidate_cases fs wanted default
    · have hne : wanted ≠ default := by
        rintro rfl
        simp [hbarred.noDir] at h
      obtain ⟨records, hcreate⟩ := create_of_barred hbarred
      rw [hfirst, LogDirectory.ensure, if_neg (by simp [hbarred.noDir]), hcreate]
      simp only [if_neg hne, create_of_isDir h]
      exact ⟨_, rfl⟩
    · rw [hfirst, ensure_of_isDir h]
      exact ⟨_, rfl⟩
  | neither hbarred h =>
    obtain hfirst | ⟨hfirst, -⟩ := candidate_cases fs wanted default
    · by_cases hne : wanted = default
      · rw [hfirst, hne]
        exact ensure_of_barred h
      · obtain ⟨records, hcreate⟩ := create_of_barred hbarred
        obtain ⟨records', hcreate'⟩ := create_of_barred h
        rw [hfirst, LogDirectory.ensure, if_neg (by simp [hbarred.noDir]), hcreate]
        simp only [if_neg hne, hcreate']
        exact ⟨_, rfl⟩
    · rw [hfirst]
      exact ensure_of_barred h

/-- However the directories stood before, they stand fast once they have been tried. -/
theorem stands_ensure (hlinks : fs.NoDangling) (hwanted : wanted.Normal) (hdefault : default.Normal)
    (h : (ensure fs (candidate fs wanted default).value default).2.value = .ok r) :
    Stands (ensure fs (candidate fs wanted default).value default).1 wanted default r := by
  have hcases := candidate_cases fs wanted default
  generalize (candidate fs wanted default).value = first at h hcases ⊢
  have hnormal : first.Normal := by
    obtain rfl | ⟨rfl, -⟩ := hcases
    · exact hwanted
    · exact hdefault
  obtain ⟨hgrows, hyes, hno⟩ := makes_create fs hnormal
  obtain ⟨hgrows', hyes', hno'⟩ := makes_create (create fs first).1 hdefault
  replace hno := hno hlinks
  replace hno' := hno' (hgrows.noDangling hlinks)
  -- what is found of the directory that comes first, once it is there or cannot be made
  have hthere : ∀ fs', Grows fs fs' → fs'.isDir first.text = true →
      Stands fs' wanted default ⟨first, true⟩ := by
    intro fs' hg hdir
    obtain rfl | ⟨rfl, hbarred⟩ := hcases
    · exact .wanted hdir
    · exact .default (hbarred.mono hg) hdir
  have hbarred : ∀ fs', Grows fs fs' → Barred fs' first → Barred fs' wanted := by
    intro fs' hg hfirst
    obtain rfl | ⟨-, hbarred⟩ := hcases
    · exact hfirst
    · exact hbarred.mono hg
  unfold ensure at h ⊢
  by_cases hdir : fs.isDir first.text = true
  · rw [if_pos hdir] at h ⊢
    obtain rfl := Except.ok.inj h
    exact hthere fs (.refl fs) hdir
  · rw [if_neg hdir] at h ⊢
    generalize create fs first = made at h hgrows hyes hno hgrows' hyes' hno' ⊢
    obtain ⟨fs', value, records⟩ := made
    match value with
    | .error e => simp at h
    | .ok true =>
      obtain rfl := Except.ok.inj h
      exact hthere fs' hgrows (hyes rfl)
    | .ok false =>
      by_cases hsame : first = default
      · simp only [if_pos hsame] at h ⊢
        obtain rfl := Except.ok.inj h
        subst hsame
        exact .neither (hbarred fs' hgrows (hno rfl)) (hno rfl)
      · simp only [if_neg hsame] at h ⊢
        -- what was in the way of the first directory is in its way still
        have hstill := (hbarred fs' hgrows (hno rfl)).mono hgrows'
        generalize create fs' default = second at h hyes' hno' hstill ⊢
        obtain ⟨fs'', value', records'⟩ := second
        match value' with
        | .error e => simp [Logged.value_bind, Except.map, pure] at h
        | .ok true =>
          obtain rfl := Except.ok.inj h
          exact .default hstill (hyes' rfl)
        | .ok false =>
          obtain rfl := Except.ok.inj h
          exact .neither hstill (hno' rfl)

end

theorem grows_ensure (fs : FileSystem) {first default : Path} (hfirst : first.Normal)
    (hdefault : default.Normal) : Grows fs (ensure fs first default).1 := by
  have hgrows := (makes_create fs hfirst).1
  have hgrows' := (makes_create (create fs first).1 hdefault).1
  unfold ensure
  split
  · exact .refl fs
  · generalize create fs first = made at hgrows hgrows' ⊢
    obtain ⟨fs', value, records⟩ := made
    match value with
    | .error e | .ok true => exact hgrows
    | .ok false =>
      dsimp only
      split
      · exact hgrows
      · exact hgrows.trans hgrows'

theorem grows_resolve (env : Environment) (fs : FileSystem) (p : Platform) (system : Option String) :
    Grows fs (resolve env fs p system).1 := by
  have hdefault := normal_byDefault env p system
  have hfirst : (candidate fs (wanted env p system) (byDefault env p system)).value.Normal := by
    obtain h | ⟨h, -⟩ := candidate_cases fs (wanted env p system) (byDefault env p system)
    · rw [h]
      exact normal_wanted env p system
    · rw [h]
      exact hdefault
  simp only [resolve]
  exact grows_ensure fs hfirst hdefault

/-- Resolving the log directory a second time finds the same and changes nothing. -/
theorem resolve_twice {env : Environment} {fs : FileSystem} {p : Platform} {system : Option String}
    {r : Resolution} (hlinks : fs.NoDangling) (h : (resolve env fs p system).2.value = .ok r) :
    ∃ records, resolve env (resolve env fs p system).1 p system =
      ((resolve env fs p system).1, ⟨.ok r, records⟩) := by
  have hstands := stands_ensure hlinks (normal_wanted env p system) (normal_byDefault env p system)
    (r := r) (by simpa [resolve, Logged.value_bind] using h)
  obtain ⟨records, hagain⟩ := hstands.ensure
  simp only [resolve, hagain]
  exact ⟨_, rfl⟩

end ProfilerBootstrap.LogDirectory
