import ProfilerBootstrap.Proofs.LogDirectory.Twice
import ProfilerBootstrap.Proofs.Logging.Built
import ProfilerBootstrap.Settings

namespace ProfilerBootstrap

open FileSystem

/-- The snapshot has what the environment says, and the directory that was found. -/
theorem Settings.load_ok {env : Environment} {fs fs' : FileSystem} {p : Platform}
    {flags flags' : Flags} {inlining : Bool} {system : Option String} {settings : Settings}
    {records : List LogRecord}
    (h : load env fs p flags inlining system = (fs', ⟨.ok (settings, flags'), records⟩)) :
    (LogDirectory.resolve env fs p system).1 = fs' ∧
      (LogDirectory.resolve env fs p system).2.value =
        .ok ⟨settings.logDirectory, settings.logDirectoryValid⟩ ∧
      settings.logLevel = (env.logLevel .warn).value ∧ settings.logTargets = env.logTargets := by
  unfold load at h
  generalize LogDirectory.resolve env fs p system = found at h ⊢
  obtain ⟨fs₁, value, records₁⟩ := found
  cases value with
  | error e => simp at h
  | ok directory =>
    simp only [Prod.mk.injEq, Logged.mk.injEq, Except.ok.injEq] at h
    obtain ⟨rfl, hread, -⟩ := h
    obtain rfl : (read env flags inlining directory).value.1 = settings := congrArg Prod.fst hread
    exact ⟨rfl, rfl, rfl, rfl⟩

/-- Nothing changes when the log directory is resolved again after a snapshot, whatever resolving it
the first time left behind. Logging that is then set up has the level of the snapshot and none but
its targets, and a log file lies in the directory of the snapshot, which is valid in that case. -/
theorem Settings.foretells {l : Logger} {env : Environment} {p : Platform} {process : String}
    {pid : Int} {system : Option String} {flags flags' : Flags} {inlining : Bool}
    {settings : Settings} {records : List LogRecord} {fs : FileSystem}
    (hlinks : l.fs.NoDangling) (hno : l.logFiles = []) (hslash : '/' ∉ process.toList)
    (hload : load env l.fs p flags inlining system = (fs, ⟨.ok (settings, flags'), records⟩)) :
    (∃ again, LogDirectory.resolve env fs p system =
      (fs, ⟨.ok ⟨settings.logDirectory, settings.logDirectoryValid⟩, again⟩)) ∧
    ∀ l' h, ({ l with fs := fs }.emitAll records).initialise env p process pid system =
        (l', .ok h) →
      h.level = settings.logLevel ∧ (∀ t ∈ h.activeTargets, t ∈ settings.logTargets) ∧
      (.file ∈ h.activeTargets → settings.logDirectoryValid = true ∧
        ∃ path, h.logFile = some path ∧ path.parent = settings.logDirectory) ∧
      (settings.logDirectoryValid = false → .file ∉ h.activeTargets) := by
  obtain ⟨hresolved, hdirectory, hlevel, htargets⟩ := load_ok hload
  obtain ⟨again, htwice⟩ := LogDirectory.resolve_twice hlinks hdirectory
  rw [hresolved] at htwice
  refine ⟨⟨again, htwice⟩, fun l' h hi => ?_⟩
  obtain ⟨hfs, hno'⟩ : ({ l with fs := fs }.emitAll records).fs = fs ∧
      ({ l with fs := fs }.emitAll records).logFiles = [] :=
    Logger.emitAll_of_no_files (l := { l with fs := fs }) hno records
  obtain ⟨built, c, m, hbuilt, -, -, hinstall, -⟩ := Logger.initialise_built hno' hi
  rw [hfs] at hbuilt
  obtain ⟨hlevel', htargets', hpath⟩ := LogConfig.install_of_config hinstall
  -- the log file lies in the directory that is found the second time, which is that of the snapshot
  have hfile : .file ∈ h.activeTargets → settings.logDirectoryValid = true ∧
      ∃ path, h.logFile = some path ∧ path.parent = settings.logDirectory := by
    intro hactive
    cases hsome : h.logFile with
    | none => exact absurd hactive ((LogConfig.install_spec hinstall).2.1.1 hsome)
    | some path =>
      obtain ⟨-, dir, -, -, -, hdir, hlies, -⟩ := hbuilt.opened_of_logFile (hpath path hsome)
      rw [Environment.system_logRequest] at hdir
      rw [Environment.process_logRequest, LogSite.filePaths_of_no_slash dir hslash] at hlies
      have hsame : (⟨settings.logDirectory, settings.logDirectoryValid⟩ : LogDirectory.Resolution) =
          ⟨dir, true⟩ := by
        rw [htwice] at hdir
        exact Except.ok.inj hdir
      obtain ⟨hdir', hvalid⟩ := LogDirectory.Resolution.mk.inj hsame
      refine ⟨hvalid, path, rfl, ?_⟩
      rw [hlies, hdir']
      simp [Path.parent]
  refine ⟨?_, fun t ht => ?_, hfile, fun hinvalid hactive => ?_⟩
  · rw [hlevel', hbuilt.level, hlevel]
    rfl
  · rw [htargets]
    exact hbuilt.targets_subset (htargets' t ht)
  · simp [hinvalid] at hfile
    exact hfile hactive

/-- Where a file is in the way of the directory that is wanted, logging falls back to the default
one, as the snapshot says. -/
theorem Settings.foretells_with_file_in_way :
    let env : Environment := .ofList
      [("ELASTIC_APM_PROFILER_LOG_DIR", "/f/b"), ("ELASTIC_APM_PROFILER_LOG_TARGETS", "file;stdout")]
    let p : Platform := ⟨"Linux", "64", "/v/w", fun _ => none⟩
    let l : Logger :=
      ⟨((FileSystem.fresh []).create [['f']]).1, [], 0, "", [], "", "", fun _ _ => default⟩
    let loaded := load env l.fs p .initial true none
    l.fs.isDir "/v" = false ∧ loaded.1.isDir "/v" = true ∧
      (LogDirectory.resolve env loaded.1 p none).1 = loaded.1 ∧
      ∃ h, (({ l with fs := loaded.1 }.emitAll loaded.2.records).initialise env p "p" 1 none).2 =
          .ok h ∧
        h.level = .warn ∧ ∃ path, h.logFile = some path ∧ path.parent = .ofText "/v/w" := by
  intro env p l loaded
  have hbefore : l.fs.isDir "/v" = false := by decide +kernel
  have hafter : loaded.1.isDir "/v" = true := by decide +kernel
  have hsettings : loaded.2.value.toOption.map (fun found =>
      (found.1.logDirectory, found.1.logLevel)) = some (.ofText "/v/w", .warn) := by decide +kernel
  have hactive : (({ l with fs := loaded.1 }.emitAll loaded.2.records).initialise env p "p" 1
      none).2.toOption.map LogHandle.activeTargets = some [.file, .stdout] := by decide +kernel
  have hlinks : l.fs.NoDangling := noDangling_of_no_links fun e he target hlink => by
    obtain rfl := List.mem_singleton.1 he
    simp at hlink
  have hno : l.logFiles = [] := rfl
  have hload : load env l.fs p .initial true none = loaded := rfl
  -- all that is to be computed has been; the rest holds of any run with these results
  clear_value loaded l p env
  obtain ⟨fs, value, records⟩ := loaded
  refine ⟨hbefore, hafter, ?_⟩
  dsimp only at hactive hsettings ⊢
  cases value with
  | error e => simp [Except.toOption] at hsettings
  | ok found =>
    obtain ⟨settings, flags⟩ := found
    obtain ⟨hdirectory, hlevel⟩ := Prod.mk.inj (Option.some.inj hsettings)
    cases hinit : ({ l with fs := fs }.emitAll records).initialise env p "p" 1 none with
    | mk l' result =>
      cases result with
      | error e => simp [hinit, Except.toOption] at hactive
      | ok h =>
        rw [hinit] at hactive
        obtain ⟨⟨again, htwice⟩, hlevel', -, hfile, -⟩ :=
          (foretells hlinks hno (by decide : '/' ∉ "p".toList) hload).imp_right (· l' h hinit)
        have hmem : .file ∈ h.activeTargets := by
          rw [Option.some.inj hactive]
          decide
        obtain ⟨-, path, hpath, hparent⟩ := hfile hmem
        exact ⟨by rw [htwice], h, rfl, hlevel'.trans hlevel, path, hpath, hparent.trans hdirectory⟩

end ProfilerBootstrap
