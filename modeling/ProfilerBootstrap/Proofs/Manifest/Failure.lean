import ProfilerBootstrap.Manifest.Load
import ProfilerBootstrap.Proofs.FileSystem.Operation
import ProfilerBootstrap.Proofs.Yaml.Document

namespace ProfilerBootstrap.Manifest

/-- The failures that the caller gets as they are. -/
inductive Escapes (fs : FileSystem) (path : String) : Failure → Prop
  | nullCharacter (h : FileSystem.hasNull path = true) : Escapes fs path .nullCharacter
  | unusable {bytes : ByteArray} {u : Yaml.Unusable} (read : fs.bytesAt path = .ok bytes)
    (h : Yaml.Document.Unreadable bytes.toList u) : Escapes fs path (.unusable u)

/-- Records and no warning, or one warning that tells of the path and an error with that path and
the code of failure. -/
def Promised (path : String) (r : Logged (Except Failure Records)) : Prop :=
  (∃ records, r = ⟨.ok records, []⟩) ∨
    ∃ (e : LoadError) (cause : String), r = ⟨.error (.disabled e),
      [⟨.warning, s!"Problem reading integrations file {path}: {cause}. profiler is disabled."⟩]⟩ ∧
      e.path = path ∧ e.code = -2147467259

theorem promised_disable (path : String) (p : FileProblem) :
    Promised path (disable (.file path p)) :=
  .inr ⟨.file path p, p.message path, rfl, rfl, rfl⟩

theorem ofBytes_outcome (m : Model) (path : String) (bytes : List UInt8) :
    Promised path (ofBytes m path bytes) ∨
      ∃ u, Yaml.Document.Unreadable bytes u ∧
        ofBytes m path bytes = ⟨.error (.unusable u), []⟩ := by
  unfold ofBytes
  split
  · next u h => exact .inr ⟨u, Yaml.Document.read_unusable_iff.mp h, rfl⟩
  · exact .inl (promised_disable _ _)
  · split
    · next records _ => exact .inl (.inl ⟨records, rfl⟩)
    · exact .inl (promised_disable _ _)

theorem load_outcome (fs : FileSystem) (m : Model) (path : String) :
    Promised path (load fs m path) ∨ ∃ f, Escapes fs path f ∧ load fs m path = ⟨.error f, []⟩ := by
  unfold load
  split
  · next h => exact .inr ⟨_, .nullCharacter (FileSystem.bytesAt_eq_null.mp h), rfl⟩
  · exact .inl (promised_disable _ _)
  · next bytes h =>
    rcases ofBytes_outcome m path bytes.toList with hp | ⟨u, hu, hr⟩
    · exact .inl hp
    · exact .inr ⟨_, .unusable h hu, hr⟩

theorem load_of_escapes {fs : FileSystem} {m : Model} {path : String} {f : Failure}
    (h : Escapes fs path f) : load fs m path = ⟨.error f, []⟩ := by
  unfold load
  cases h with
  | nullCharacter h =>
    rw [FileSystem.bytesAt_eq_null.mpr h]
    rfl
  | unusable read h =>
    rw [read]
    unfold ofBytes
    dsimp only
    rw [Yaml.Document.read_unusable_iff.mpr h]
    rfl

theorem not_promised_of_escapes {fs : FileSystem} {m : Model} {path : String} {f : Failure}
    (h : Escapes fs path f) : ¬Promised path (load fs m path) := by
  rw [load_of_escapes h]
  intro hp
  cases h <;> rcases hp with ⟨records, hp⟩ | ⟨e, cause, hp, -⟩ <;> cases hp

/-- The promise is kept unless a failure escapes, and such a failure comes without a warning. Where
the environment names no file, the promise is kept with an empty path and whatever the file system
holds. -/
theorem load_promised_iff (env : Environment) (fs : FileSystem) (m : Model) (path : String) :
    (Promised path (load fs m path) ↔ ∀ f, ¬Escapes fs path f) ∧
    (∀ f, Escapes fs path f ↔ load fs m path = ⟨.error f, []⟩) ∧
    match env.integrationsPath with
    | none =>
      loadNamed env fs m = ⟨.error (.disabled .notNamed), [⟨.warning,
        "Problem reading ELASTIC_APM_PROFILER_INTEGRATIONS environment variable: " ++
          "environment variable not found. profiler is disabled."⟩]⟩ ∧
      LoadError.notNamed.path = "" ∧ LoadError.notNamed.code = -2147467259
    | some named => loadNamed env fs m = load fs m named := by
  refine ⟨⟨?_, ?_⟩, fun f => ⟨load_of_escapes, ?_⟩, ?_⟩
  · intro hp f hf
    exact not_promised_of_escapes hf hp
  · intro hno
    rcases load_outcome fs m path with hp | ⟨f, hf, -⟩
    · exact hp
    · exact absurd hf (hno f)
  · intro hr
    rcases load_outcome fs m path with hp | ⟨f', hf, hr'⟩
    · rcases hp with ⟨records, hp⟩ | ⟨e, cause, hp, -⟩
      · cases hr.symm.trans hp
      · cases hr.symm.trans hp
    · cases hr.symm.trans hr'
      exact hf
  · unfold loadNamed
    cases env.integrationsPath with
    | none => exact ⟨rfl, rfl, rfl⟩
    | some named => rfl

/-- The scalar that ended the loading, where nothing was written about it. -/
def unusable? : Logged (Except Failure Records) → Option Yaml.Unusable
  | ⟨.error (.unusable u), []⟩ => some u
  | _ => none

theorem eq_of_unusable? {r : Logged (Except Failure Records)} {u : Yaml.Unusable}
    (h : unusable? r = some u) : r = ⟨.error (.unusable u), []⟩ := by
  unfold unusable? at h
  split at h
  · rw [Option.some.inj h]
  · simp at h

/-- A date in a thirteenth month is a failure that escapes. -/
theorem load_not_promised_of_thirteenth_month :
    let fs : FileSystem := ((FileSystem.fresh [['r']]).writeFile "m.yml"
      "- v: 2001-13-01\n".toUTF8).toOption.getD (.fresh [])
    Escapes fs "m.yml" (.unusable .month) ∧ ¬Promised "m.yml" (load fs .caller "m.yml") := by
  intro fs
  have hr : load fs .caller "m.yml" = ⟨.error (.unusable .month), []⟩ :=
    eq_of_unusable? (by decide +kernel)
  obtain ⟨hiff, hescapes, -⟩ := load_promised_iff (.ofList []) fs .caller "m.yml"
  have hf := (hescapes (.unusable .month)).mpr hr
  exact ⟨hf, fun hp => hiff.mp hp _ hf⟩

end ProfilerBootstrap.Manifest
