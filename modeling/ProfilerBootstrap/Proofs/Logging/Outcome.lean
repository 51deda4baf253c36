import ProfilerBootstrap.Proofs.LogDirectory.Twice
import ProfilerBootstrap.Proofs.Logging.Backups
import ProfilerBootstrap.Proofs.Logging.Reopen

namespace ProfilerBootstrap

open FileSystem

theorem isLiteral_filePaths {dir : Path} {process : String} (hnormal : dir.Normal)
    (hdir : IsLiteral dir.text) (hprocess : IsLiteral process) (pid : Int) :
    IsLiteral (LogSink.filePaths dir process pid).1.text := by
  have hdirChars : dir.text.toList = dir.chars := Path.toList_text dir
  refine ⟨fun h => ?_, fun h => ?_, fun h => ?_⟩
  · rw [Path.toList_text] at h
    exact (LogSite.mem_of_filePaths h (.inr (.inl rfl))).elim (hdirChars ▸ hdir.noOpen)
      hprocess.noOpen
  · rw [Path.toList_text] at h
    exact (LogSite.mem_of_filePaths h (.inr (.inr rfl))).elim (hdirChars ▸ hdir.noClose)
      hprocess.noClose
  · rw [Path.ofText_text (LogSite.normal_filePaths hnormal process pid)] at h
    simp only [LogSink.filePaths] at h
    rcases Path.mem_names_join h with h | h
    · exact hdir.noUp (by rwa [Path.ofText_text hnormal])
    · -- a way up in the name of the file is one in the name of the process
      have hchars : (s!"elastic_apm_profiler_{process}_{pid}" ++ ".log").toList =
          "elastic_apm_profiler_".toList ++ (process.toList ++
            ('_' :: (pid.repr.toList ++ ".log".toList))) := by
        rw [LogSite.filePaths_text]
        simp [LogSite.processPrefix, toString]
      have hpieces := (List.mem_filter.1 h).1
      rw [hchars] at hpieces
      have hpid : '/' ∉ '_' :: (pid.repr.toList ++ ".log".toList) := by
        simp [Text.slash_notMem_repr]
      obtain hmem | ⟨rest, hrest⟩ | ⟨rest, hrest⟩ := Path.mem_pieces_append (by decide) hpid hpieces
      · exact hprocess.noUp (List.mem_filter.2 ⟨hmem, rfl⟩)
      · have hlen := congrArg List.length hrest
        simp at hlen
      · have hlen := congrArg List.length hrest
        simp at hlen
        omega

namespace LogConfig

section
variable {env : Environment} {fs fs' : FileSystem} {p : Platform} {r : Request} {c : LogConfig}

/-- A configuration is installed as it was built, if its log file is taken as it is written. -/
theorem Built.configure (hbuilt : Built env fs p r fs' c) (hr : fs.Rooted)
    (hpaths : ∀ dir, (LogDirectory.resolve env fs p r.system).2.value = .ok ⟨dir, true⟩ →
      IsLiteral (LogSink.filePaths dir r.process r.pid).1.text ∧
        byteLength (LogFile.absolute fs (LogSink.filePaths dir r.process r.pid).1.chars).chars <
          pathLimit) (m : Logger) (hm : m.fs = fs') :
    ∃ l' ids, m.configure c.handlers = (l', .ok ids) := by
  have hoff : ∀ c : LogConfig, (∀ k ∈ c.sinks, k.target ≠ .file) →
      ∃ l' ids, m.configure c.handlers = (l', .ok ids) := by
    intro c h
    obtain ⟨l', ids, hconf, -⟩ := configure_of_no_files h m
    exact ⟨l', ids, hconf⟩
  cases hbuilt with
  | off => exact hoff _ (by simp)
  | unasked => exact hoff _ fun k => r.target_outlets
  | invalid => exact hoff _ fun k => r.target_outlets
  | refused => exact hoff _ fun k => r.target_outlets
  | opened h hfile dir hdir path maxSize roller hsink fs' id hopen =>
    obtain ⟨hliteral, hshort⟩ := hpaths dir hdir
    have hnormal := LogDirectory.normal_of_resolve hdir
    obtain rfl := LogSite.path_of_ofProcess hsink
    obtain ⟨w, hw, hactive, -⟩ := LogSite.exists_of_filePaths hnormal r.process r.pid
    have hw := hw.literal (hactive ▸ hliteral)
    -- resolving the directory leaves relative paths beginning where they began
    have hgrows := LogDirectory.grows_resolve env fs p r.system
    generalize (LogDirectory.resolve env fs p r.system).1 = fs₁ at hopen hgrows
    rw [hactive, hw.absolute_eq hr, ← hgrows.here] at hshort
    rw [hactive] at hopen
    have hagain := LogFile.open?_of_openAppend
      (t := m.openingTime (r.outlets ++ [.file (w.path []).text maxSize roller]))
      hw (hgrows.rooted hr) hshort hopen
    refine configure_of_open? (r.filter_outlets_append ..) h (o := ?_) ?_
    · exact ⟨(w.absolute fs'.here).path [], id⟩
    · rw [hm, hactive, hagain]

theorem Built.stdout_iff (hbuilt : Built env fs p r fs' c) (hlevel : r.level ≠ .off) :
    .stdout ∈ c.targets ↔ .stdout ∈ r.targets := by
  refine ⟨hbuilt.targets_subset, fun h => (c.mem_targets _).2 ⟨.stdout, ?_, rfl⟩⟩
  have hmem := Request.stdout_mem_outlets h
  cases hbuilt with
  | off h => exact absurd h hlevel
  | unasked => exact hmem
  | invalid => exact hmem
  | refused => exact hmem
  | opened => exact List.mem_append_left _ hmem

/-- A configuration has a log file where one is asked for, there is a directory for it, and it
opens. -/
theorem Built.file_iff (hbuilt : Built env fs p r fs' c) (hlevel : r.level ≠ .off) :
    .file ∈ c.targets ↔ .file ∈ r.targets ∧ ∃ dir opened,
      (LogDirectory.resolve env fs p r.system).2.value = .ok ⟨dir, true⟩ ∧
      (LogDirectory.resolve env fs p r.system).1.openAppend
        (LogSink.filePaths dir r.process r.pid).1.text = .ok opened := by
  have hno : .file ∉ targets ⟨r.level, r.outlets⟩ := by
    rw [← logFile_eq_none_iff]
    exact logFile_outlets r.level r
  cases hbuilt with
  | off h => exact absurd h hlevel
  | unasked h hfile => exact iff_of_false hno fun hasked => hfile hasked.1
  | invalid h hfile dir hdir =>
    refine iff_of_false hno ?_
    rintro ⟨-, dir', opened, hdir', -⟩
    exact absurd (hdir.symm.trans hdir') (by simp)
  | refused h hfile dir hdir why hopen =>
    refine iff_of_false hno ?_
    rintro ⟨-, dir', opened, hdir', hopen'⟩
    obtain ⟨rfl, -⟩ := LogDirectory.Resolution.mk.inj (Except.ok.inj (hdir.symm.trans hdir'))
    exact absurd (hopen.symm.trans hopen') (by simp)
  | opened h hfile dir hdir path maxSize roller hsink fs' id hopen =>
    obtain rfl := LogSite.path_of_ofProcess hsink
    refine iff_of_true ?_ ⟨hfile, dir, _, hdir, hopen⟩
    exact (mem_targets _ _).2 ⟨_, List.mem_append_right _ (List.mem_singleton_self _), rfl⟩

theorem Built.length_targets (hbuilt : Built env fs p r fs' c) :
    c.targets.length = c.sinks.length := by
  have houtlets : r.outlets = [] ∨ r.outlets = [.stdout] := by
    unfold Request.outlets
    split
    · exact .inr rfl
    · exact .inl rfl
  cases hbuilt with
  | off => rfl
  | unasked | invalid | refused | opened =>
    obtain h | h := houtlets <;> simp [targets, LogTarget.all, LogSink.target, h]

end

end LogConfig

theorem Environment.value_logLevel (env : Environment) :
    (env.logLevel .warn).value = ((env.get? Variables.logLevel).bind Level.parse?).getD .warn := by
  unfold logLevel readLevel
  cases env.get? Variables.logLevel with
  | none => rfl
  | some raw =>
    simp only [Option.bind_some]
    cases Level.parse? raw <;> rfl

section
variable {l : Logger} {env : Environment} {p : Platform} {process : String} {pid : Int}
  {system : Option String}

theorem LogConfig.ordinary_of_isLiteral {cs : List Char} {s : String} (hs : s.toList = cs)
    (hliteral : IsLiteral s) (hnull : hasNull s = false) : LogConfig.Ordinary cs := by
  refine ⟨fun h => ?_, hs ▸ hliteral.noOpen, hs ▸ hliteral.noClose⟩
  simp [hasNull, hs, h] at hnull

/-- Nothing is in the way of logging, so that a handle is given. -/
theorem Logger.initialise_returns (hr : l.fs.Rooted)
    (hplain : ∀ s ∈ [(LogDirectory.wanted env p system).text,
      (LogDirectory.byDefault env p system).text, process], IsLiteral s ∧ hasNull s = false) :
    ∃ h, (l.initialise env p process pid system).2 = .ok h := by
  obtain ⟨hwanted, hdefault, hprocess⟩ : (IsLiteral (LogDirectory.wanted env p system).text ∧
      hasNull (LogDirectory.wanted env p system).text = false) ∧
      (IsLiteral (LogDirectory.byDefault env p system).text ∧
        hasNull (LogDirectory.byDefault env p system).text = false) ∧
      (IsLiteral process ∧ hasNull process = false) :=
    ⟨hplain _ (by simp), hplain _ (by simp), hplain _ (by simp)⟩
  have hhere : ∀ n ∈ l.fs.here, '\x00' ∉ n := fun n hn => (hr.plain n hn).noNull
  cases hresult : (l.initialise env p process pid system).2 with
  | ok h => exact ⟨h, rfl⟩
  | error e =>
    have hobstacle := ((l.initialise_error env p process pid system e).1 hresult).2.2
    refine absurd hobstacle (LogConfig.not_obstacle_of_ordinary rfl ?_ ?_ ?_ ?_ e)
    · rwa [here_emitAll]
    · exact LogConfig.ordinary_of_isLiteral (Path.toList_text _) hwanted.1 hwanted.2
    · exact LogConfig.ordinary_of_isLiteral (Path.toList_text _) hdefault.1 hdefault.2
    · exact LogConfig.ordinary_of_isLiteral rfl hprocess.1 hprocess.2

theorem LogConfig.isLiteral_of_resolve
    (hplain : ∀ s ∈ [(LogDirectory.wanted env p system).text,
      (LogDirectory.byDefault env p system).text, process], IsLiteral s ∧ hasNull s = false)
    {fs : FileSystem} {dir : Path} {valid : Bool}
    (hdir : (LogDirectory.resolve env fs p system).2.value = .ok ⟨dir, valid⟩) :
    IsLiteral (LogSink.filePaths dir process pid).1.text := by
  have hnormal := LogDirectory.normal_of_resolve hdir
  have hprocess := (hplain process (by simp)).1
  obtain rfl | rfl : dir = LogDirectory.wanted env p system ∨
      dir = LogDirectory.byDefault env p system :=
    (LogDirectory.settles_resolve env fs p system).path _ hdir
  · exact isLiteral_filePaths hnormal (hplain _ (by simp)).1 hprocess pid
  · exact isLiteral_filePaths hnormal (hplain _ (by simp)).1 hprocess pid

/-- A configuration that was built is installed as a whole: nothing is left out. -/
theorem Logger.initialise_whole (hs : l.fs.Sound) (hno : l.logFiles = [])
    (hplain : ∀ s ∈ [(LogDirectory.wanted env p system).text,
      (LogDirectory.byDefault env p system).text, process], IsLiteral s ∧ hasNull s = false)
    (hshort : ∀ dir ∈ [LogDirectory.wanted env p system, LogDirectory.byDefault env p system],
      byteLength (LogFile.absolute l.fs (LogSink.filePaths dir process pid).1.chars).chars <
        pathLimit) :
    ∃ l' c ids fs', l.initialise env p process pid system = (l', .ok (.ofConfig c ids)) ∧
      LogConfig.Built env l.fs p (env.logRequest process pid system) fs' c ∧
      l'.handlers.length = c.handlers.length := by
  obtain ⟨h, hh⟩ : ∃ h, (l.initialise env p process pid system).2 = .ok h :=
    initialise_returns hs.rooted hplain
  obtain ⟨fs', c, m, hbuilt, hm, -, hinstall, -⟩ := initialise_built hno (Prod.ext rfl hh)
  have hpaths : ∀ dir, (LogDirectory.resolve env l.fs p system).2.value = .ok ⟨dir, true⟩ →
      IsLiteral (LogSink.filePaths dir process pid).1.text ∧
        byteLength (LogFile.absolute l.fs (LogSink.filePaths dir process pid).1.chars).chars <
          pathLimit := by
    intro dir hdir
    refine ⟨LogConfig.isLiteral_of_resolve hplain hdir, hshort dir ?_⟩
    have hpath := (LogDirectory.settles_resolve env l.fs p system).path _ hdir
    simpa using hpath
  obtain ⟨l', ids, hconf⟩ := hbuilt.configure hs.rooted (by simpa using hpaths) m hm
  have hwhole := hinstall.symm.trans (LogConfig.install_of_configure hconf)
  obtain ⟨hl', hhandle⟩ := Prod.mk.inj hwhole
  obtain rfl := Except.ok.inj hhandle
  exact ⟨l', c, ids, fs', Prod.ext hl' hh, hbuilt, length_configure hconf⟩

/-- What comes of setting logging up where no log file is open yet. The directories that are asked
for and the name of the process hold no braces, no null character and no way up, and from the root
the path of the log file is not too long. Then a handle is given, with the level that is asked for.
The standard output is installed if it is asked for; the log file is if it is asked for, there is a
directory for it, and it opens there. As many handlers are installed as the handle has targets. -/
theorem Logger.initialise_outcome (hs : l.fs.Sound) (hno : l.logFiles = [])
    (hplain : ∀ s ∈ [(LogDirectory.wanted env p system).text,
      (LogDirectory.byDefault env p system).text, process], IsLiteral s ∧ hasNull s = false)
    (hshort : ∀ dir ∈ [LogDirectory.wanted env p system, LogDirectory.byDefault env p system],
      byteLength (LogFile.absolute l.fs (LogSink.filePaths dir process pid).1.chars).chars <
        pathLimit) :
    let level := ((env.get? Variables.logLevel).bind Level.parse?).getD .warn
    let resolved := LogDirectory.resolve env l.fs p system
    ∃ l' h, l.initialise env p process pid system = (l', .ok h) ∧ h.level = level ∧
      (level = .off → l'.handlers = [] ∧ h.activeTargets = [] ∧ h.logFile = none) ∧
      (level ≠ .off →
        (.stdout ∈ h.activeTargets ↔ .stdout ∈ env.logTargets) ∧
        (.file ∈ h.activeTargets ↔ .file ∈ env.logTargets ∧ ∃ dir opened,
          resolved.2.value = .ok ⟨dir, true⟩ ∧
          resolved.1.openAppend (LogSink.filePaths dir process pid).1.text = .ok opened) ∧
        ∀ path, h.logFile = some path ↔ .file ∈ h.activeTargets ∧ ∃ dir,
          resolved.2.value = .ok ⟨dir, true⟩ ∧ path = (LogSink.filePaths dir process pid).1) ∧
      l'.handlers.length = h.activeTargets.length ∧
      (h.isLogging = true ↔ h.activeTargets ≠ []) := by
  intro level resolved
  obtain ⟨l', c, ids, fs', hi, hbuilt, hlen⟩ := initialise_whole hs hno hplain hshort
  have hlevel : c.level = level := hbuilt.level.trans env.value_logLevel
  have hresolved : LogDirectory.resolve env l.fs p system = resolved := rfl
  clear_value level resolved
  refine ⟨l', _, hi, ?_⟩
  by_cases hoff : level = .off
  · rw [LogConfig.ofConfig_of_off (hlevel.trans hoff)]
    have hnil : c.handlers = [] := by simp [LogConfig.handlers, hlevel, hoff, Level.severity?]
    rw [hnil] at hlen
    exact ⟨hoff.symm, fun _ => ⟨List.length_eq_zero_iff.1 hlen, rfl, rfl⟩, fun h => absurd hoff h,
      hlen, by simp [LogHandle.isLogging]⟩
  · have hc : c.level ≠ .off := hlevel ▸ hoff
    have hrequest := hbuilt.level ▸ hc
    have hstdout := hbuilt.stdout_iff hrequest
    have hfile := hbuilt.file_iff hrequest
    have hpath := fun path => @LogConfig.Built.opened_of_logFile _ _ _ _ _ _ hbuilt path
    simp only [Environment.process_logRequest, Environment.pid_logRequest,
      Environment.system_logRequest, Environment.targets_logRequest, hresolved]
      at hstdout hfile hpath
    rw [LogConfig.ofConfig_of_level hc]
    refine ⟨hlevel, fun h => absurd h hoff, fun _ => ⟨hstdout, hfile, fun path => ⟨?_, ?_⟩⟩, ?_, ?_⟩
    · intro hsome
      obtain ⟨-, dir, -, -, -, hdir, hname, -⟩ := hpath path hsome
      refine ⟨?_, dir, hdir, hname⟩
      rw [← Classical.not_not (a := .file ∈ c.targets), ← c.logFile_eq_none_iff]
      exact fun hnone => by simp [hnone] at hsome
    · rintro ⟨hactive, dir, hdir, rfl⟩
      cases hsome : c.logFile with
      | none => exact absurd hactive (c.logFile_eq_none_iff.1 hsome)
      | some path =>
        obtain ⟨-, dir', -, -, -, hdir', rfl, -⟩ := hpath path hsome
        obtain ⟨rfl, -⟩ := LogDirectory.Resolution.mk.inj (Except.ok.inj (hdir.symm.trans hdir'))
        rfl
    · obtain ⟨s, hs⟩ := LogConfig.handlers_of_level hc
      rw [hlen, hs, List.length_map, hbuilt.length_targets]
    · simp [LogHandle.isLogging, hc]

end

/-- In an empty file system the directory that is asked for is made, and the log file opens in it.
-/
theorem Logger.initialise_outcome_with_file :
    let env : Environment := .ofList
      [("ELASTIC_APM_PROFILER_LOG", "trace"), ("ELASTIC_APM_PROFILER_LOG_DIR", "d"),
        ("ELASTIC_APM_PROFILER_LOG_TARGETS", "file")]
    let p : Platform := ⟨"Linux", "64", "/v", fun _ => none⟩
    let l : Logger := ⟨.fresh [['r']], [], 0, "", [], "", "", fun _ _ => default⟩
    ∃ l' h, l.initialise env p "p" 1 none = (l', .ok h) ∧ h.level = .trace ∧
      .file ∈ h.activeTargets ∧ .stdout ∉ h.activeTargets ∧
      h.logFile = some (.ofText "d/elastic_apm_profiler_p_1.log") ∧ h.isLogging = true := by
  intro env p l
  have hs : l.fs.Sound := sound_fresh (by decide)
  have hplain : ∀ s ∈ [(LogDirectory.wanted env p none).text,
      (LogDirectory.byDefault env p none).text, "p"], IsLiteral s ∧ hasNull s = false := by
    decide +kernel
  have hshort : ∀ dir ∈ [LogDirectory.wanted env p none, LogDirectory.byDefault env p none],
      byteLength (LogFile.absolute l.fs (LogSink.filePaths dir "p" 1).1.chars).chars < pathLimit := by
    decide +kernel
  have hdir : (LogDirectory.resolve env l.fs p none).2.value = .ok ⟨.ofText "d", true⟩ :=
    eq_ok_of_toOption (by decide +kernel)
  obtain ⟨opened, hopen⟩ := Host.exists_of_isOk (x :=
    (LogDirectory.resolve env l.fs p none).1.openAppend
      (LogSink.filePaths (.ofText "d") "p" 1).1.text) (by decide +kernel)
  have htargets : env.logTargets = [.file] := by decide +kernel
  have hlevel : ((env.get? Variables.logLevel).bind Level.parse?).getD .warn = .trace := by
    decide +kernel
  have hpath : (LogSink.filePaths (.ofText "d") "p" 1).1 =
      .ofText "d/elastic_apm_profiler_p_1.log" := by decide +kernel
  have hno : l.logFiles = [] := rfl
  clear_value env p l
  obtain ⟨l', h, hi, hl, -, hon, -, hlogging⟩ := initialise_outcome hs hno hplain hshort
  rw [hlevel] at hl hon
  obtain ⟨hstdout, hfile, hlog⟩ := hon (by simp)
  rw [htargets] at hstdout hfile
  have hactive : .file ∈ h.activeTargets := hfile.2 ⟨by simp, _, opened, hdir, hopen⟩
  refine ⟨l', h, hi, hl, hactive, fun hout => ?_, ?_, hlogging.2 (List.ne_nil_of_mem hactive)⟩
  · simpa using hstdout.1 hout
  · exact (hlog _).2 ⟨hactive, _, hdir, hpath.symm⟩

end ProfilerBootstrap
