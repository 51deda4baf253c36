import ProfilerBootstrap.Proofs.Logging.Bootstrap

namespace ProfilerBootstrap

open FileSystem

namespace LogConfig

/-- How a configuration comes about, with the file system that building it leaves behind. -/
inductive Built (env : Environment) (fs : FileSystem) (p : Platform) (r : Request) :
    FileSystem → LogConfig → Prop
  | off (h : r.level = .off) : Built env fs p r fs ⟨.off, []⟩
  | unasked (h : r.level ≠ .off) (hfile : .file ∉ r.targets) :
    Built env fs p r fs ⟨r.level, r.outlets⟩
  | invalid (h : r.level ≠ .off) (hfile : .file ∈ r.targets) (dir : Path)
    (hdir : (LogDirectory.resolve env fs p r.system).2.value = .ok ⟨dir, false⟩) :
    Built env fs p r (LogDirectory.resolve env fs p r.system).1 ⟨r.level, r.outlets⟩
  | refused (h : r.level ≠ .off) (hfile : .file ∈ r.targets) (dir : Path)
    (hdir : (LogDirectory.resolve env fs p r.system).2.value = .ok ⟨dir, true⟩) (why : Refusal)
    (hopen : (LogDirectory.resolve env fs p r.system).1.openAppend
      (LogSink.filePaths dir r.process r.pid).1.text = .error (.refused why)) :
    Built env fs p r (LogDirectory.resolve env fs p r.system).1 ⟨r.level, r.outlets⟩
  | opened (h : r.level ≠ .off) (hfile : .file ∈ r.targets) (dir : Path)
    (hdir : (LogDirectory.resolve env fs p r.system).2.value = .ok ⟨dir, true⟩)
    (path : String) (maxSize : Int) (roller : Roller)
    (hsink : LogSink.ofProcess dir r.process r.pid r.policy = .ok (.file path maxSize roller))
    (fs' : FileSystem) (id : FileId)
    (hopen : (LogDirectory.resolve env fs p r.system).1.openAppend path = .ok (fs', id)) :
    Built env fs p r fs' ⟨r.level, r.outlets ++ [.file path maxSize roller]⟩

section
variable {env : Environment} {fs : FileSystem} {p : Platform} {r : Request} {c : LogConfig}

/-- Where the sinks for log files are found out, there is a directory for them or none; and in the
directory the log file opens or is refused. -/
theorem fileSinks_ok {found : List LogSink} (h : (fileSinks env fs p r).2.value = .ok found) :
    ∃ dir valid, (LogDirectory.resolve env fs p r.system).2.value = .ok ⟨dir, valid⟩ ∧
      (found = [] ∧ (fileSinks env fs p r).1 = (LogDirectory.resolve env fs p r.system).1 ∧
          (valid = true → ∃ why, (LogDirectory.resolve env fs p r.system).1.openAppend
            (LogSink.filePaths dir r.process r.pid).1.text = .error (.refused why)) ∨
        valid = true ∧ ∃ path maxSize roller id, found = [.file path maxSize roller] ∧
          LogSink.ofProcess dir r.process r.pid r.policy = .ok (.file path maxSize roller) ∧
          (LogDirectory.resolve env fs p r.system).1.openAppend path =
            .ok ((fileSinks env fs p r).1, id)) := by
  unfold fileSinks at h ⊢
  generalize LogDirectory.resolve env fs p r.system = resolved at h ⊢
  obtain ⟨fs', value, records⟩ := resolved
  cases value with
  | error e => simp at h
  | ok resolution =>
    obtain ⟨dir, valid⟩ := resolution
    refine ⟨dir, valid, rfl, ?_⟩
    cases valid with
    | false => exact .inl ⟨(Except.ok.inj h).symm, rfl, nofun⟩
    | true =>
      cases hsink : LogSink.ofProcess dir r.process r.pid r.policy with
      | error e => simp [hsink] at h
      | ok k =>
        obtain ⟨roller, rfl, -, -⟩ := LogSite.ofProcess_ok hsink
        simp only [hsink, LogSink.probe] at h ⊢
        cases hopen : fs'.openAppend (LogSink.filePaths dir r.process r.pid).1.text with
        | ok done =>
          obtain ⟨fs'', id⟩ := done
          simp only [hopen] at h ⊢
          exact .inr ⟨trivial, _, _, roller, id, (Except.ok.inj h).symm, rfl, hopen⟩
        | error e =>
          cases e with
          | refused why =>
            simp only [hopen] at h ⊢
            exact .inl ⟨(Except.ok.inj h).symm, rfl, fun _ => ⟨why, rfl⟩⟩
          | nullCharacter => simp [hopen, pure] at h

theorem built_of_build (h : (build env fs p r).2.value = .ok c) :
    Built env fs p r (build env fs p r).1 c := by
  by_cases hoff : r.level = .off
  · rw [build_of_off hoff] at h ⊢
    obtain rfl := Except.ok.inj h
    exact .off hoff
  · by_cases hfile : .file ∈ r.targets
    · rw [build_of_file hoff hfile] at h ⊢
      simp only at h ⊢
      cases hfound : (fileSinks env fs p r).2.value with
      | error e => simp [hfound, Except.map] at h
      | ok found =>
        obtain rfl : ⟨r.level, r.outlets ++ found⟩ = c := by simpa [hfound, Except.map] using h
        have hcases := fileSinks_ok hfound
        generalize (fileSinks env fs p r).1 = fs' at hcases ⊢
        obtain ⟨dir, valid, hdir, hcases⟩ := hcases
        rcases hcases with ⟨hfound, hfs, hrefused⟩ | ⟨hvalid, hopened⟩
        · rw [hfound, hfs, List.append_nil]
          cases valid with
          | false => exact .invalid hoff hfile dir hdir
          | true =>
            obtain ⟨why, hopen⟩ := hrefused rfl
            exact .refused hoff hfile dir hdir why hopen
        · obtain ⟨path, maxSize, roller, id, hfound, hsink, hopen⟩ := hopened
          rw [hvalid] at hdir
          rw [hfound]
          exact .opened hoff hfile dir hdir path maxSize roller hsink fs' id hopen
    · rw [build_of_no_file hoff hfile] at h ⊢
      obtain rfl := Except.ok.inj h
      exact .unasked hoff hfile

variable {fs' : FileSystem}

theorem Built.level (h : Built env fs p r fs' c) : c.level = r.level := by
  cases h with
  | off h => exact h.symm
  | unasked | invalid | refused | opened => rfl

theorem Built.kept {R : FileSystem → Prop} (hR : Kept R) (h : Built env fs p r fs' c) (hfs : R fs) :
    R fs' := by
  have hresolved := LogDirectory.kept_resolve hR.toKeptByEntries hfs env p r.system
  cases h with
  | off | unasked => exact hfs
  | invalid | refused => exact hresolved
  | opened h hfile dir hdir path maxSize roller hsink fs' id hopen =>
    exact hR.openAppend hopen hresolved

theorem target_of_mem_outlets {k : LogSink} (hk : k ∈ r.outlets) : k.target ∈ r.targets := by
  unfold Request.outlets at hk
  split at hk
  · rename_i h
    obtain rfl := List.mem_singleton.1 hk
    exact List.contains_iff_mem.1 h
  · simp at hk

theorem Built.targets_subset (h : Built env fs p r fs' c) {t : LogTarget} (ht : t ∈ c.targets) :
    t ∈ r.targets := by
  obtain ⟨k, hk, rfl⟩ := (c.mem_targets t).1 ht
  cases h with
  | off => simp at hk
  | unasked => exact target_of_mem_outlets hk
  | invalid => exact target_of_mem_outlets hk
  | refused => exact target_of_mem_outlets hk
  | opened h hfile =>
    rcases List.mem_append.1 hk with hk | hk
    · exact target_of_mem_outlets hk
    · obtain rfl := List.mem_singleton.1 hk
      exact hfile

theorem logFile_outlets (level : Level) (r : Request) : logFile ⟨level, r.outlets⟩ = none := by
  rw [logFile_eq_none_iff, mem_targets]
  rintro ⟨k, hk, ht⟩
  exact r.target_outlets hk ht

theorem logFile_outlets_append (level : Level) (r : Request) (path : String) (maxSize : Int)
    (roller : Roller) :
    logFile ⟨level, r.outlets ++ [.file path maxSize roller]⟩ = some (.ofText path) := by
  have hnone := logFile_outlets level r
  rw [logFile] at hnone ⊢
  rw [List.findSome?_append, hnone]
  rfl

/-- A configuration with a log file: the file is in the directory that was found, it has been
opened, and no other sink writes to a file. -/
theorem Built.opened_of_logFile (h : Built env fs p r fs' c) {path : Path}
    (hpath : c.logFile = some path) :
    c.level ≠ .off ∧ ∃ dir maxSize roller id,
      (LogDirectory.resolve env fs p r.system).2.value = .ok ⟨dir, true⟩ ∧
      path = (LogSink.filePaths dir r.process r.pid).1 ∧
      (LogDirectory.resolve env fs p r.system).1.openAppend path.text = .ok (fs', id) ∧
      c.sinks.filter (·.target = .file) = [.file path.text maxSize roller] := by
  cases h with
  | off => simp [LogConfig.logFile] at hpath
  | unasked | invalid | refused => simp [logFile_outlets] at hpath
  | opened h hfile dir hdir path' maxSize roller hsink fs' id hopen =>
    rw [logFile_outlets_append] at hpath
    obtain rfl := LogSite.path_of_ofProcess hsink
    have hname : path = (LogSink.filePaths dir r.process r.pid).1 := by
      have hnormal := LogSite.normal_filePaths (LogDirectory.normal_of_resolve hdir) r.process r.pid
      rw [← Option.some.inj hpath, Path.ofText_text hnormal]
    rw [← hname] at hopen ⊢
    exact ⟨h, dir, maxSize, roller, id, hdir, hname, hopen, r.filter_outlets_append ..⟩

end

section
variable {c : LogConfig} {l l' : Logger} {h : LogHandle}

/-- What a handle tells, unless logging is off. -/
theorem ofConfig_of_level (hlevel : c.level ≠ .off) (ids : List Nat) :
    LogHandle.ofConfig c ids = ⟨c.level, c.targets, c.logFile, ids⟩ := by
  obtain ⟨s, hs⟩ := handlers_of_level hlevel
  unfold LogHandle.ofConfig
  split
  · rename_i hempty
    have hsinks : c.sinks = [] := by simpa [hs] using hempty
    simp [targets, logFile, hsinks]
  · rfl

theorem ofConfig_of_off (hlevel : c.level = .off) (ids : List Nat) :
    LogHandle.ofConfig c ids = ⟨.off, [], none, ids⟩ := by
  have hnil : c.handlers = [] := by simp [handlers, hlevel, Level.severity?]
  simp [LogHandle.ofConfig, hnil, hlevel]

theorem logFile_without (c : LogConfig) : (c.without .file).logFile = none := by
  rw [logFile_eq_none_iff, mem_targets]
  rintro ⟨k, hk, ht⟩
  simpa [ht] using (List.mem_filter.1 hk).2

theorem install_of_config (hi : c.install l = (l', .ok h)) :
    h.level = c.level ∧ (∀ t ∈ h.activeTargets, t ∈ c.targets) ∧
      ∀ path, h.logFile = some path → c.logFile = some path := by
  obtain ⟨c', ids, m, m', hc', -, -, rfl, -⟩ := install_ok hi
  have hless : c'.level = c.level ∧ (∀ t ∈ c'.targets, t ∈ c.targets) ∧
      ∀ path, c'.logFile = some path → c.logFile = some path := by
    rcases hc' with rfl | rfl
    · exact ⟨rfl, fun _ ht => ht, fun _ hpath => hpath⟩
    · refine ⟨rfl, fun t ht => ?_, fun path hpath => ?_⟩
      · obtain ⟨k, hk, rfl⟩ := (mem_targets _ t).1 ht
        exact (mem_targets c _).2 ⟨k, (List.mem_filter.1 hk).1, rfl⟩
      · simp [logFile_without] at hpath
  by_cases hlevel : c'.level = .off
  · rw [ofConfig_of_off hlevel]
    exact ⟨hlevel.symm.trans hless.1, by simp, by simp⟩
  · rw [ofConfig_of_level hlevel]
    exact hless

end

end LogConfig

namespace Logger

section
variable {l : Logger}

theorem emit_of_no_files (h : l.logFiles = []) (r : LogRecord) :
    (l.emit r).fs = l.fs ∧ (l.emit r).logFiles = [] :=
  l.handleAll_of_no_files r h

theorem emitAll_of_no_files (h : l.logFiles = []) (rs : List LogRecord) :
    (l.emitAll rs).fs = l.fs ∧ (l.emitAll rs).logFiles = [] := by
  induction rs generalizing l with
  | nil => exact ⟨rfl, h⟩
  | cons r rs ih =>
    obtain ⟨hfs, hno⟩ := emit_of_no_files h r
    obtain ⟨hfs', hno'⟩ := ih hno
    exact ⟨hfs'.trans hfs, hno'⟩

end

/-- Setting logging up, where no log file is open, is building a configuration and installing it in
the file system that building it leaves behind. -/
theorem initialise_built {l l' : Logger} {env : Environment} {p : Platform} {process : String}
    {pid : Int} {system : Option String} {h : LogHandle} (hno : l.logFiles = [])
    (hi : l.initialise env p process pid system = (l', .ok h)) :
    ∃ (fs : FileSystem) (c : LogConfig) (m : Logger),
      LogConfig.Built env l.fs p (env.logRequest process pid system) fs c ∧
        m.fs = fs ∧ m.logFiles = [] ∧ c.install m = (l', .ok h) ∧
        (LogConfig.build env l.fs p (env.logRequest process pid system)).1 = fs ∧
        m.clock = l.clock := by
  obtain ⟨hfs, hno'⟩ := emitAll_of_no_files hno (env.logLevel .warn).records
  simp only [initialise] at hi
  have hclock := clock_emitAll l (env.logLevel .warn).records
  rw [hfs] at hi
  generalize l.emitAll (env.logLevel .warn).records = l₁ at hi hno' hclock
  have hbuilt := @LogConfig.built_of_build env l.fs p (env.logRequest process pid system)
  simp only [Environment.logRequest] at hbuilt ⊢
  generalize LogConfig.build env l.fs p _ = built at hi hbuilt
  obtain ⟨fs, value, records⟩ := built
  have hkept := emitAll_of_no_files (l := { l₁ with fs := fs }) hno' records
  cases value with
  | error e => simp at hi
  | ok c =>
    have hclock' := (clock_emitAll { l₁ with fs := fs } records).trans hclock
    refine ⟨fs, c, { l₁ with fs := fs }.emitAll records, hbuilt rfl, hkept.1, hkept.2, ?_⟩
    simp only at hi
    split at hi
    · rename_i m k hk
      obtain ⟨rfl, rfl⟩ := by simpa using hi
      exact ⟨hk, rfl, hclock'⟩
    · simp at hi

end Logger

end ProfilerBootstrap
