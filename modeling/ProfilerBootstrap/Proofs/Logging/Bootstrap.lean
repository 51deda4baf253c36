import ProfilerBootstrap.Proofs.Logging.Install
import ProfilerBootstrap.Proofs.Logging.Obstacle

namespace ProfilerBootstrap

open FileSystem

def Environment.logRequest (env : Environment) (process : String) (pid : Int)
    (system : Option String) : LogConfig.Request :=
  ⟨process, env.logTargets, (env.logLevel .warn).value, pid, system, .usual⟩

section
variable (env : Environment) (process : String) (pid : Int) (system : Option String)

@[simp]
theorem Environment.process_logRequest : (env.logRequest process pid system).process = process := rfl

@[simp]
theorem Environment.pid_logRequest : (env.logRequest process pid system).pid = pid := rfl

@[simp]
theorem Environment.system_logRequest : (env.logRequest process pid system).system = system := rfl

@[simp]
theorem Environment.targets_logRequest :
    (env.logRequest process pid system).targets = env.logTargets := rfl

end

theorem LogConfig.Request.stdout_mem_outlets {r : Request} (h : .stdout ∈ r.targets) :
    .stdout ∈ r.outlets := by
  unfold outlets
  rw [if_pos (List.contains_iff_mem.2 h)]
  exact List.mem_singleton_self _

namespace LogConfig

variable {env : Environment} {fs : FileSystem} {p : Platform} {r : Request}

theorem build_of_off (h : r.level = .off) : build env fs p r = (fs, return .ok ⟨.off, []⟩) := by
  rw [build, if_pos h]

theorem build_of_no_file (h : r.level ≠ .off) (hfile : .file ∉ r.targets) :
    build env fs p r = (fs, return .ok ⟨r.level, r.outlets⟩) := by
  rw [build, if_neg h]
  simp [hfile, Request.outlets]

theorem build_of_file (h : r.level ≠ .off) (hfile : .file ∈ r.targets) :
    build env fs p r = ((fileSinks env fs p r).1,
      ⟨(fileSinks env fs p r).2.value.map fun found => ⟨r.level, r.outlets ++ found⟩,
        (fileSinks env fs p r).2.records⟩) := by
  rw [build, if_neg h]
  simp [hfile, Request.outlets]

end LogConfig

theorem LogConfig.build_ok {env : Environment} {fs : FileSystem} {p : Platform} {r : Request}
    {c : LogConfig} (hoff : r.level ≠ .off) (h : (build env fs p r).2.value = .ok c) :
    c.level = r.level ∧ ∀ k ∈ r.outlets, k ∈ c.sinks := by
  by_cases hfile : .file ∈ r.targets
  · rw [build_of_file hoff hfile] at h
    cases hsinks : (fileSinks env fs p r).2.value with
    | error e => simp [hsinks, Except.map] at h
    | ok found =>
      simp only [hsinks, Except.map] at h
      obtain rfl := Except.ok.inj h
      exact ⟨rfl, fun k hk => List.mem_append_left _ hk⟩
  · rw [build_of_no_file hoff hfile] at h
    obtain rfl := Except.ok.inj h
    exact ⟨rfl, fun k hk => hk⟩

def Logger.setUp (l : Logger) (built : FileSystem × Logged (Except LogConfig.Error LogConfig)) :
    Except LoggingError LogHandle :=
  match built.2.value with
  | .error e => .error (.config e)
  | .ok c => (c.install (l.afterBuild built)).2.mapError .file

theorem Logger.initialise_eq (l : Logger) (env : Environment) (p : Platform) (process : String)
    (pid : Int) (system : Option String) {l₁ : Logger} {r : LogConfig.Request}
    (hl : l.emitAll (env.logLevel .warn).records = l₁)
    (hr : env.logRequest process pid system = r) :
    (l.initialise env p process pid system).2 = l₁.setUp (LogConfig.build env l₁.fs p r) := by
  subst hl hr
  unfold initialise setUp afterBuild Environment.logRequest
  dsimp only
  generalize LogConfig.build env _ p _ = built
  obtain ⟨fs, config⟩ := built
  dsimp only
  cases config.value with
  | error e => rfl
  | ok c =>
    dsimp only
    generalize c.install _ = installed
    obtain ⟨m, h⟩ := installed
    cases h with
    | error e => rfl
    | ok h => rfl

section
variable {l : Logger} {built : FileSystem × Logged (Except LogConfig.Error LogConfig)}
  {c : LogConfig}

theorem Logger.setUp_of_no_files (hc : built.2.value = .ok c) (hno : ∀ k ∈ c.sinks, k.target ≠ .file)
    (e : LoggingError) : l.setUp built ≠ .error e := by
  obtain ⟨h, hh⟩ := LogConfig.install_of_no_files hno (l.afterBuild built)
  simp [setUp, hc, hh]

theorem Logger.setUp_error_iff (hc : built.2.value = .ok c) (hlevel : c.level ≠ .off)
    {path : String} {maxSize : Int} {roller : Roller}
    (hone : c.sinks.filter (·.target = .file) = [.file path maxSize roller]) (e : LoggingError) :
    l.setUp built = .error e ↔
      (∃ f, FileName.expand (l.openingTime c.sinks) path.toList = .error f ∧ e = .file (.name f)) ∨
      ∃ cs, FileName.expand (l.openingTime c.sinks) path.toList = .ok cs ∧
        l.RefusesNull built cs ∧ e = .file (.files .nullCharacter) := by
  have hset : l.setUp built = (c.install (l.afterBuild built)).2.mapError .file := by
    simp only [setUp, hc]
  rw [hset, ← l.openingTime_afterBuild built]
  constructor
  · intro h
    cases hi : (c.install (l.afterBuild built)).2 with
    | ok k => simp [hi] at h
    | error e' =>
      rw [hi] at h
      obtain rfl := Except.error.inj h
      obtain ⟨hopen, hother⟩ := (LogConfig.install_error_iff hone hlevel _ e').1 hi
      obtain ⟨f, hf, rfl⟩ | ⟨cs, hcs, hnull, rfl⟩ := (LogFile.open?_error_iff hother).1 hopen
      · exact .inl ⟨f, hf, rfl⟩
      · exact .inr ⟨cs, hcs, hnull, rfl⟩
  · have hinstall {e' : LogFileError} (hother : ∀ r, e' ≠ .files (.refused r))
        (hopen : (LogFile.open? (l.afterBuild built).fs ((l.afterBuild built).openingTime c.sinks)
          path).2 = .error e') :
        (c.install (l.afterBuild built)).2.mapError LoggingError.file = .error (.file e') := by
      rw [(LogConfig.install_error_iff hone hlevel _ _).2 ⟨hopen, hother⟩]
      rfl
    rintro (⟨f, hf, rfl⟩ | ⟨cs, hcs, hnull, rfl⟩)
    · exact hinstall (by simp) ((LogFile.open?_error_iff (by simp)).2 (.inl ⟨f, hf, rfl⟩))
    · exact hinstall (by simp) ((LogFile.open?_error_iff (by simp)).2 (.inr ⟨cs, hcs, hnull, rfl⟩))

theorem Logger.exists_of_setUp_ok {h : LogHandle} (hh : l.setUp built = .ok h) :
    ∃ c, built.2.value = .ok c ∧ (c.install (l.afterBuild built)).2 = .ok h := by
  cases hc : built.2.value with
  | error e => simp [setUp, hc] at hh
  | ok c =>
    refine ⟨c, rfl, ?_⟩
    simp only [setUp, hc] at hh
    cases hi : (c.install (l.afterBuild built)).2 with
    | error e => simp [hi] at hh
    | ok k =>
      rw [hi] at hh
      rw [Except.ok.inj hh]

end

section
variable {l : Logger} {env : Environment} {p : Platform} {r : LogConfig.Request}

/-- Where a log file is asked for, setting logging up fails where there is an obstacle to it. -/
theorem Logger.setUp_build_error_iff (hoff : r.level ≠ .off) (hfile : .file ∈ r.targets)
    (hpolicy : r.policy = .usual) (e : LoggingError) :
    l.setUp (LogConfig.build env l.fs p r) = .error e ↔ LogConfig.Obstacle env l p r e := by
  have hcases := (LogConfig.fileSinks_cases env l.fs p hpolicy).2
  have hvalue : (LogConfig.build env l.fs p r).2.value =
      (LogConfig.fileSinks env l.fs p r).2.value.map fun found => ⟨r.level, r.outlets ++ found⟩ := by
    rw [LogConfig.build_of_file hoff hfile]
  generalize hbuilt : LogConfig.build env l.fs p r = built at hvalue ⊢
  generalize LogConfig.fileSinks env l.fs p r = sinks at hvalue hcases
  have hempty : ∀ k ∈ r.outlets ++ [], k.target ≠ .file := by
    intro k hk
    rw [List.append_nil] at hk
    exact r.target_outlets hk
  obtain ⟨e', hdir, hsinks⟩ | ⟨dir, hdir, hnone, hsinks⟩ | ⟨path, hpath, htried⟩ := hcases
  · -- the path of the directory has a null character
    rw [LogConfig.obstacle_iff_of_error hdir]
    simp [setUp, hvalue, hsinks, Except.map, eq_comm]
  · -- there is no directory, and so no log file
    rw [hsinks] at hvalue
    refine iff_of_false (setUp_of_no_files hvalue hempty e) ?_
    exact LogConfig.not_obstacle_of_no_path hdir hnone
  · obtain ⟨hnull, hsinks⟩ | ⟨why, hopen, hsinks⟩ | ⟨opened, maxSize, roller, hopen, hsinks⟩ := htried
    · -- the path of the log file has a null character
      rw [LogConfig.obstacle_iff_of_null hpath hnull]
      simp [setUp, hvalue, hsinks, Except.map, eq_comm]
    · -- the log file is refused, and left out
      rw [hsinks] at hvalue
      refine iff_of_false (setUp_of_no_files hvalue hempty e) ?_
      exact LogConfig.not_obstacle_of_refused hpath hopen
    · -- the log file opens under its path, and once more under its name
      rw [hsinks] at hvalue
      have hiff := setUp_error_iff (l := l) hvalue hoff (r.filter_outlets_append path maxSize roller) e
      rw [r.openingTime_outlets] at hiff
      rw [LogConfig.obstacle_iff_of_opened hpath hopen, LogConfig.NameFault, hbuilt]
      exact hiff

end

theorem Logger.stdout_of_setUp {l : Logger} {env : Environment} {p : Platform}
    {r : LogConfig.Request} (hoff : r.level ≠ .off) (hstdout : .stdout ∈ r.targets) {h : LogHandle}
    (hh : l.setUp (LogConfig.build env l.fs p r) = .ok h) : .stdout ∈ h.activeTargets := by
  obtain ⟨c, hc, hi⟩ := exists_of_setUp_ok hh
  obtain ⟨hlevel, hsinks⟩ := LogConfig.build_ok hoff hc
  exact LogConfig.stdout_of_install hi (hlevel ▸ hoff) (hsinks _ (r.stdout_mem_outlets hstdout))

section
variable (l : Logger) (env : Environment) (p : Platform) (process : String) (pid : Int)
  (system : Option String)

theorem Logger.initialise_error (e : LoggingError) :
    (l.initialise env p process pid system).2 = .error e ↔
      (env.logLevel .warn).value ≠ .off ∧ .file ∈ env.logTargets ∧
        LogConfig.Obstacle env (l.emitAll (env.logLevel .warn).records) p
          (env.logRequest process pid system) e := by
  generalize hl : l.emitAll (env.logLevel .warn).records = l₁
  generalize hr : env.logRequest process pid system = r
  have htargets : r.targets = env.logTargets := by rw [← hr]; rfl
  have hlevel : r.level = (env.logLevel .warn).value := by rw [← hr]; rfl
  have hpolicy : r.policy = .usual := by rw [← hr]; rfl
  rw [← htargets, ← hlevel, l.initialise_eq env p process pid system hl hr]
  by_cases hoff : r.level = .off
  · have hc : (LogConfig.build env l₁.fs p r).2.value = .ok ⟨.off, []⟩ := by
      rw [LogConfig.build_of_off hoff]
      rfl
    exact iff_of_false (setUp_of_no_files hc (by simp) e) fun h => h.1 hoff
  · by_cases hfile : .file ∈ r.targets
    · rw [setUp_build_error_iff hoff hfile hpolicy]
      simp [hoff, hfile]
    · have hc : (LogConfig.build env l₁.fs p r).2.value = .ok ⟨r.level, r.outlets⟩ := by
        rw [LogConfig.build_of_no_file hoff hfile]
        rfl
      exact iff_of_false (setUp_of_no_files hc (fun k => r.target_outlets) e) fun h => hfile h.2.1

theorem Logger.stdout_of_initialise {h : LogHandle}
    (hh : (l.initialise env p process pid system).2 = .ok h) (hstdout : .stdout ∈ env.logTargets)
    (hlevel : (env.logLevel .warn).value ≠ .off) : .stdout ∈ h.activeTargets := by
  rw [l.initialise_eq env p process pid system rfl rfl] at hh
  exact stdout_of_setUp (r := env.logRequest process pid system) hlevel hstdout hh

end

end ProfilerBootstrap
