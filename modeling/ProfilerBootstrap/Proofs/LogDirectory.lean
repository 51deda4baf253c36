import ProfilerBootstrap.LogDirectory
import ProfilerBootstrap.Proofs.FileSystem.Frame

namespace ProfilerBootstrap

open FileSystem

namespace LogDirectory

variable {env : Environment} {fs : FileSystem} {p : Platform} {system : Option String}

theorem normal_byDefault (env : Environment) (p : Platform) (system : Option String) :
    (byDefault env p system).Normal := by
  unfold byDefault
  split
  · exact Path.normal_ofText _
  · have hprogram : ∀ path, programData env = some path → path.Normal := by
      intro path hpath
      obtain ⟨d, -, rfl⟩ := Option.map_eq_some_iff.1 hpath
      exact (((Path.normal_ofText d).join _).join _).join _
    have hbeside : (besideProfiler env p).Normal := (Path.normal_ofText _).join _
    unfold firstResolved
    cases hd : programData env with
    | none => exact hbeside
    | some path => exact hprogram path hd

theorem normal_wanted (env : Environment) (p : Platform) (system : Option String) :
    (wanted env p system).Normal := by
  unfold wanted
  split
  · split
    · exact normal_byDefault env p system
    · exact Path.normal_ofText _
  · exact normal_byDefault env p system

/-- Nothing but a null character keeps it from being found out whether a directory can be made. -/
theorem create_spec (fs : FileSystem) (path : Path) :
    (create fs path).1.here = fs.here ∧
      ∀ e, (create fs path).2.value = .error e ↔ e = .nullCharacter ∧ hasNull path.text = true := by
  have hhere := (honest_makePath fs path).here
  have hnull := makePath_eq_null fs path
  unfold create
  generalize fs.makePath path = done at hhere hnull ⊢
  rw [← hnull]
  split
  · exact ⟨hhere, fun e => by simp [pure]⟩
  · exact ⟨hhere, fun e => by simp [Logged.value_bind, pure]⟩
  · exact ⟨hhere, fun e => by simp [pure, eq_comm]⟩

/-- What is found out about two directories, of which the second one is there to fall back on. -/
structure Settles (fs : FileSystem) (first default : Path)
    (found : FileSystem × Logged (Except FileSystem.Error Resolution)) : Prop where
  here : found.1.here = fs.here
  path : ∀ r, found.2.value = .ok r → r.path = first ∨ r.path = default
  null : ∀ e, found.2.value = .error e →
    e = .nullCharacter ∧ (hasNull first.text = true ∨ hasNull default.text = true)

theorem settles_ensure (fs : FileSystem) (first default : Path) :
    Settles fs first default (ensure fs first default) := by
  obtain ⟨hhere, hvalue⟩ := create_spec fs first
  obtain ⟨hhere', hvalue'⟩ := create_spec (create fs first).1 default
  unfold ensure
  generalize create fs first = made at hhere hvalue hhere' hvalue' ⊢
  split
  · exact ⟨rfl, by simp [pure], by simp [pure]⟩
  · simp only
    split
    · rename_i e he
      have h := (hvalue e).1 he
      refine ⟨hhere, by simp, fun e' he' => ?_⟩
      obtain rfl := Except.error.inj he'
      exact ⟨h.1, .inl h.2⟩
    · exact ⟨hhere, by simp, by simp⟩
    · split
      · exact ⟨hhere, by simp, by simp⟩
      · -- the first directory could not be had, and the default one is tried in its place
        generalize create made.1 default = second at hhere' hvalue' ⊢
        obtain ⟨fs', value, records⟩ := second
        refine ⟨hhere'.trans hhere, fun r hr => ?_, fun e he => ?_⟩
        · cases value with
          | error e => simp [Logged.value_bind, Except.map, pure] at hr
          | ok made' => exact .inr (congrArg Resolution.path (Except.ok.inj hr)).symm
        · cases value with
          | error e' =>
            obtain rfl := Except.error.inj he
            have h := (hvalue' e').1 rfl
            exact ⟨h.1, .inr h.2⟩
          | ok made' => simp [Logged.value_bind, Except.map, pure] at he

theorem candidate_value (fs : FileSystem) (wanted default : Path) :
    (candidate fs wanted default).value = wanted ∨ (candidate fs wanted default).value = default := by
  unfold candidate
  split
  · exact .inr rfl
  · exact .inl rfl

theorem settles_resolve (env : Environment) (fs : FileSystem) (p : Platform)
    (system : Option String) :
    Settles fs (wanted env p system) (byDefault env p system) (resolve env fs p system) := by
  simp only [resolve]
  generalize wanted env p system = w
  generalize byDefault env p system = d
  have hfirst := candidate_value fs w d
  generalize candidate fs w d = first at hfirst ⊢
  have h := settles_ensure fs first.value d
  generalize ensure fs first.value d = found at h ⊢
  refine ⟨h.here, fun r hr => ?_, fun e he => ?_⟩
  · rcases h.path r hr with hpath | hpath
    · exact hfirst.imp hpath.trans hpath.trans
    · exact .inr hpath
  · obtain ⟨rfl, hnull⟩ := h.null e he
    refine ⟨rfl, ?_⟩
    rcases hnull with hnull | hnull
    · rcases hfirst with hc | hc
      · exact .inl (hc ▸ hnull)
      · exact .inr (hc ▸ hnull)
    · exact .inr hnull

theorem normal_of_resolve {r : Resolution} (h : (resolve env fs p system).2.value = .ok r) :
    r.path.Normal := by
  rcases (settles_resolve env fs p system).path r h with hr | hr
  · rw [hr]
    exact normal_wanted env p system
  · rw [hr]
    exact normal_byDefault env p system

section
variable {R : FileSystem → Prop} (hR : KeptByEntries R) {fs : FileSystem}

include hR

theorem kept_create (h : R fs) (path : Path) : R (create fs path).1 := by
  have hmade := hR.makePath h path
  unfold create
  generalize fs.makePath path = done at hmade ⊢
  split <;> exact hmade

theorem kept_ensure (h : R fs) (first default : Path) : R (ensure fs first default).1 := by
  have hfirst := kept_create hR h first
  have hsecond := kept_create hR hfirst default
  unfold ensure
  generalize create fs first = made at hfirst hsecond ⊢
  split
  · exact h
  · simp only
    split
    · exact hfirst
    · exact hfirst
    · split
      · exact hfirst
      · exact hsecond

theorem kept_resolve (h : R fs) (env : Environment) (p : Platform) (system : Option String) :
    R (resolve env fs p system).1 := by
  simp only [resolve]
  exact kept_ensure hR h _ _

end

end LogDirectory

end ProfilerBootstrap
