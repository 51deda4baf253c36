import ProfilerBootstrap.Proofs.FileSystem.Reopen
import ProfilerBootstrap.Proofs.LogDirectory.Twice

namespace ProfilerBootstrap.LogDirectory

open FileSystem

def asked (env : Environment) : Option Path :=
  match env.get? Variables.logDirectory with
  | some d => if d = "" then none else some (.ofText d)
  | none => none

/-- A directory can be had: it is there, or it can be made with its parents. -/
def IsUsable (fs : FileSystem) (path : Path) : Prop :=
  fs.isDir path.text = true ∨ (fs.makePath path).2 = none

def tried (fs : FileSystem) : Option Path → FileSystem
  | some o => (fs.makePath o).1
  | none => fs

theorem wanted_eq (env : Environment) (p : Platform) (system : Option String) :
    wanted env p system = (asked env).getD (byDefault env p system) := by
  unfold wanted asked
  cases env.get? Variables.logDirectory with
  | none => rfl
  | some d =>
    by_cases hd : d = ""
    · simp [hd]
    · simp [hd]

theorem wanted_of_asked {env : Environment} {p : Platform} {system : Option String} {o : Path}
    (ho : o ∈ asked env) : wanted env p system = o := by
  rw [wanted_eq, ho]
  rfl

theorem normal_asked {env : Environment} {o : Path} (h : o ∈ asked env) : o.Normal := by
  unfold asked at h
  split at h
  · split at h
    · simp at h
    · obtain rfl := Option.some.inj h
      exact Path.normal_ofText _
  · simp at h

section
variable {fs : FileSystem} {path first default : Path}

theorem isUsable_iff : IsUsable fs path ↔ (fs.makePath path).2 = none := by
  constructor
  · rintro (h | h)
    · rw [makePath_of_isDir h]
    · exact h
  · exact .inr

instance (fs : FileSystem) : DecidablePred (IsUsable fs) := fun path =>
  inferInstanceAs (Decidable (fs.isDir path.text = true ∨ (fs.makePath path).2 = none))

theorem refused_of_not_isUsable (hnull : hasNull path.text = false) (h : ¬ IsUsable fs path) :
    ∃ r, fs.makePath path = ((fs.makePath path).1, some (.refused r)) := by
  rw [isUsable_iff] at h
  have hno := makePath_eq_null fs path
  generalize fs.makePath path = done at h hno ⊢
  obtain ⟨fs', e⟩ := done
  match e with
  | none => exact absurd rfl h
  | some (.refused r) => exact ⟨r, rfl⟩
  | some .nullCharacter => simp [hno.1 rfl] at hnull

/-- A directory that can be had is there once it was tried, and no other is. -/
theorem isDir_makePath_iff (hpath : path.Normal) (hnull : hasNull path.text = false) :
    (fs.makePath path).1.isDir path.text = true ↔ IsUsable fs path := by
  refine ⟨fun hdir => Decidable.byContradiction fun h => ?_, fun h => ?_⟩
  · obtain ⟨r, hr⟩ := refused_of_not_isUsable hnull h
    obtain ⟨r', hr'⟩ := makePath_again hpath hr
    simp [makePath_of_isDir hdir] at hr'
  · exact (makes_makePath hpath).made (isUsable_iff.1 h)

theorem create_of_isUsable (h : IsUsable fs path) :
    create fs path = ((fs.makePath path).1, return .ok true) := by
  have h := isUsable_iff.1 h
  unfold create
  generalize fs.makePath path = done at h ⊢
  obtain ⟨fs', e⟩ := done
  obtain rfl : e = none := h
  rfl

theorem create_of_not_isUsable (hnull : hasNull path.text = false) (h : ¬ IsUsable fs path) :
    ∃ records, create fs path = ((fs.makePath path).1, ⟨.ok false, records⟩) := by
  obtain ⟨r, hr⟩ := refused_of_not_isUsable hnull h
  rw [create, hr]
  exact ⟨_, rfl⟩

theorem ensure_of_isUsable (h : IsUsable fs first) (default : Path) :
    ∃ records, ensure fs first default = ((fs.makePath first).1, ⟨.ok ⟨first, true⟩, records⟩) := by
  unfold ensure
  split
  · rename_i hdir
    rw [makePath_of_isDir hdir]
    exact ⟨_, rfl⟩
  · rw [create_of_isUsable h]
    exact ⟨_, rfl⟩

/-- Where the first directory cannot be had, the default one is tried in what that has left behind,
also if it is the same one. -/
theorem ensure_of_not_isUsable (hdefault : default.Normal) (hnull : hasNull first.text = false)
    (hnull' : hasNull default.text = false) (h : ¬ IsUsable fs first) :
    ∃ records, ensure fs first default = (((fs.makePath first).1.makePath default).1,
      ⟨.ok ⟨default, decide (IsUsable (fs.makePath first).1 default)⟩, records⟩) := by
  obtain ⟨records, hcreate⟩ := create_of_not_isUsable hnull h
  rw [ensure, if_neg fun hdir => h (.inl hdir), hcreate]
  by_cases hsame : first = default
  · subst hsame
    obtain ⟨r, hr⟩ := refused_of_not_isUsable hnull h
    obtain ⟨r', hr'⟩ := makePath_again hdefault hr
    have hno : ¬ IsUsable (fs.makePath first).1 first := by simp [isUsable_iff, hr']
    simp only [if_true, hr', decide_eq_false hno]
    exact ⟨_, rfl⟩
  · simp only [if_neg hsame]
    by_cases hyes : IsUsable (fs.makePath first).1 default
    · rw [create_of_isUsable hyes, decide_eq_true hyes]
      exact ⟨_, rfl⟩
    · obtain ⟨records', hcreate'⟩ := create_of_not_isUsable hnull' hyes
      rw [hcreate', decide_eq_false hyes]
      exact ⟨_, rfl⟩

theorem not_isUsable_of_barred (h : Barred fs path) :
    ¬ IsUsable fs path ∧ (fs.makePath path).1 = fs := by
  obtain ⟨r, hr⟩ := h.makePath
  simp [isUsable_iff, hr]

end

section
variable {env : Environment} {fs : FileSystem} {p : Platform} {system : Option String}

theorem resolve_of_ensure {fs' : FileSystem} {r : Resolution}
    (h : ∃ records, ensure fs (candidate fs (wanted env p system) (byDefault env p system)).value
      (byDefault env p system) = (fs', ⟨.ok r, records⟩)) :
    ∃ records, resolve env fs p system = (fs', ⟨.ok r, records⟩) := by
  obtain ⟨records, hensure⟩ := h
  simp only [resolve, hensure]
  exact ⟨_, rfl⟩

/-- The directory that is asked for is the one, wherever it can be had. -/
theorem resolve_of_isUsable {o : Path} (ho : o ∈ asked env) (h : IsUsable fs o) :
    ∃ records, resolve env fs p system = ((fs.makePath o).1, ⟨.ok ⟨o, true⟩, records⟩) := by
  apply resolve_of_ensure
  rw [wanted_of_asked ho]
  obtain hfirst | ⟨-, hbarred⟩ := candidate_cases fs o (byDefault env p system)
  · rw [hfirst]
    exact ensure_of_isUsable h _
  · exact absurd h (not_isUsable_of_barred hbarred).1

/-- Where the directory that is asked for cannot be had, or none is, it is the default one; whether
that can be had is told of what trying the other one has left behind. -/
theorem resolve_of_not_isUsable (hasked : ∀ o ∈ asked env, hasNull o.text = false)
    (hdefault : hasNull (byDefault env p system).text = false)
    (h : ∀ o ∈ asked env, ¬ IsUsable fs o) :
    ∃ records, resolve env fs p system =
      (((tried fs (asked env)).makePath (byDefault env p system)).1,
        ⟨.ok ⟨byDefault env p system,
          decide (IsUsable (tried fs (asked env)) (byDefault env p system))⟩, records⟩) := by
  apply resolve_of_ensure
  have hnormal := normal_byDefault env p system
  rw [wanted_eq]
  generalize byDefault env p system = d at hdefault hnormal ⊢
  -- the default directory alone is tried where what is there cannot be used, or nothing is asked for
  have halone : ∃ records, ensure fs d d =
      ((fs.makePath d).1, ⟨.ok ⟨d, decide (IsUsable fs d)⟩, records⟩) := by
    by_cases hyes : IsUsable fs d
    · rw [decide_eq_true hyes]
      exact ensure_of_isUsable hyes d
    · obtain ⟨r, hr⟩ := refused_of_not_isUsable hdefault hyes
      obtain ⟨r', hr'⟩ := makePath_again hnormal hr
      have hno : ¬ IsUsable (fs.makePath d).1 d := by simp [isUsable_iff, hr']
      obtain ⟨records, hensure⟩ := ensure_of_not_isUsable hnormal hdefault hdefault hyes
      rw [hr', decide_eq_false hno] at hensure
      rw [decide_eq_false hyes]
      exact ⟨records, hensure⟩
  cases ho : asked env with
  | none =>
    obtain hfirst | ⟨hfirst, -⟩ := candidate_cases fs d d
    all_goals
      rw [Option.getD_none, hfirst]
      exact halone
  | some o =>
    rw [ho] at hasked h
    rw [Option.getD_some]
    obtain hfirst | ⟨hfirst, hbarred⟩ := candidate_cases fs o d
    · rw [hfirst]
      exact ensure_of_not_isUsable hnormal (hasked o rfl) hdefault (h o rfl)
    · rw [hfirst, tried, (not_isUsable_of_barred hbarred).2]
      exact halone

/-- Resolving the log directory always finds one, the one that is asked for wherever it can be had,
else the default one; and that it is valid says that it is there. -/
theorem resolve_chooses (env : Environment) (fs : FileSystem) (p : Platform)
    (system : Option String) (hasked : ∀ o ∈ asked env, hasNull o.text = false)
    (hdefault : hasNull (byDefault env p system).text = false) :
    ∃ r, (resolve env fs p system).2.value = .ok r ∧
      (r.path ∈ asked env ∨ r.path = byDefault env p system) ∧
      (r.isValid = true ↔ (resolve env fs p system).1.isDir r.path.text = true) ∧
      (∀ o ∈ asked env, IsUsable fs o → r = ⟨o, true⟩) ∧
      ((∀ o ∈ asked env, ¬ IsUsable fs o) → r.path = byDefault env p system ∧
        (r.isValid = true ↔ IsUsable (tried fs (asked env)) (byDefault env p system))) ∧
      (r.isValid = false → (∀ o ∈ asked env, ¬ IsUsable fs o) ∧
        ¬ IsUsable (tried fs (asked env)) (byDefault env p system)) := by
  by_cases h : ∃ o ∈ asked env, IsUsable fs o
  · obtain ⟨o, ho, hyes⟩ := h
    have honly : ∀ o' ∈ asked env, o' = o := fun o' ho' => Option.some.inj (ho'.symm.trans ho)
    obtain ⟨records, hresolve⟩ := @resolve_of_isUsable env fs p system o ho hyes
    rw [hresolve]
    have hdir := (isDir_makePath_iff (normal_asked ho) (hasked o ho)).2 hyes
    refine ⟨⟨o, true⟩, rfl, .inl ho, by simp [hdir], ?_, ?_, by simp⟩
    · intro o' ho' _
      rw [honly o' ho']
    · intro hno
      exact absurd hyes (hno o ho)
  · have hno : ∀ o ∈ asked env, ¬ IsUsable fs o := fun o ho hyes => h ⟨o, ho, hyes⟩
    obtain ⟨records, hresolve⟩ := resolve_of_not_isUsable hasked hdefault hno
    rw [hresolve]
    have hdir := @isDir_makePath_iff (tried fs (asked env)) _ (normal_byDefault env p system)
      hdefault
    refine ⟨_, rfl, .inr rfl, ?_, ?_, ?_, ?_⟩
    · simp [hdir]
    · intro o ho hyes
      exact absurd hyes (hno o ho)
    · intro _
      simp
    · intro hinvalid
      exact ⟨hno, by simpa using hinvalid⟩

/-- A file is in the way of the directory that is asked for, but not of a directory on the way
there, in which the default one is made then. -/
theorem resolve_chooses_after_parent :
    let env : Environment := .ofList [("ELASTIC_APM_PROFILER_LOG_DIR", "d/../f")]
    let p : Platform := ⟨"Linux", "64", "d/y", fun _ => none⟩
    let fs := ((FileSystem.fresh [['r']]).create [['r'], ['f']]).1
    fs.isDir "d" = false ∧ (tried fs (asked env)).isDir "d" = true ∧
      (resolve env fs p none).2.value = .ok ⟨.ofText "d/y", true⟩ ∧
      (resolve env fs p none).1.isDir "d/y" = true := by
  intro env p fs
  have hbefore : fs.isDir "d" = false := by decide +kernel
  have hparent : (tried fs (asked env)).isDir "d" = true := by decide +kernel
  have hno : ∀ o ∈ asked env, ¬ IsUsable fs o := by decide +kernel
  have hyes : IsUsable (tried fs (asked env)) (byDefault env p none) := by decide +kernel
  have hasked : ∀ o ∈ asked env, hasNull o.text = false := by decide +kernel
  have hdefault : hasNull (byDefault env p none).text = false := by decide +kernel
  have hpath : byDefault env p none = .ofText "d/y" := by decide +kernel
  have htext : (Path.ofText "d/y").text = "d/y" := by decide +kernel
  clear_value env p fs
  obtain ⟨⟨path, isValid⟩, hvalue, -, hdir, -, hchosen, -⟩ :=
    resolve_chooses env fs p none hasked hdefault
  obtain ⟨rfl, hvalid⟩ := hchosen hno
  obtain rfl := hvalid.2 hyes
  rw [hpath] at hvalue hdir
  exact ⟨hbefore, hparent, hvalue, htext ▸ hdir.1 rfl⟩

end

end ProfilerBootstrap.LogDirectory
