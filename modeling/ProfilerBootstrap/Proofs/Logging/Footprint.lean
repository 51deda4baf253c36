import ProfilerBootstrap.Proofs.FileSystem.Location
import ProfilerBootstrap.Proofs.LogDirectory.Choice
import ProfilerBootstrap.Proofs.Logging.Outcome
import ProfilerBootstrap.Proofs.Logging.Written

namespace ProfilerBootstrap

open FileSystem

namespace LogDirectory

section
variable {env : Environment} {fs : FileSystem} {p : Platform} {system : Option String}

/-- On the way to the directory that is asked for, or where that cannot be had, to the default one.
-/
def OnTheWay (env : Environment) (fs : FileSystem) (p : Platform) (system : Option String)
    (m : Location) : Prop :=
  (∃ o ∈ asked env, m <+: fs.locate o) ∨
    (∀ o ∈ asked env, ¬ IsUsable fs o) ∧ m <+: fs.locate (byDefault env p system)

/-- Resolving the log directory adds directories on the way to it, and on the way to the one that
was tried before. -/
theorem growsIn_resolve (hlinks : fs.NoLinks)
    (hplain : ∀ d ∈ [wanted env p system, byDefault env p system],
      hasNull d.text = false ∧ ['.', '.'] ∉ d.names) :
    GrowsIn (OnTheWay env fs p system) fs (resolve env fs p system).1 := by
  obtain ⟨hnull, hup⟩ := hplain (byDefault env p system) (by simp)
  have hasked : ∀ o ∈ asked env, hasNull o.text = false ∧ ['.', '.'] ∉ o.names := fun o ho =>
    hplain o (by simp [wanted_of_asked ho])
  by_cases h : ∃ o ∈ asked env, IsUsable fs o
  · obtain ⟨o, ho, hyes⟩ := h
    obtain ⟨records, hresolve⟩ := @resolve_of_isUsable env fs p system o ho hyes
    rw [hresolve]
    refine (hlinks.growsIn_makePath (normal_asked ho) (hasked o ho).2).mono ?_
    exact fun m hm => .inl ⟨o, ho, hm⟩
  · have hno : ∀ o ∈ asked env, ¬ IsUsable fs o := fun o ho hyes => h ⟨o, ho, hyes⟩
    obtain ⟨records, hresolve⟩ := resolve_of_not_isUsable (fun o ho => (hasked o ho).1) hnull hno
    rw [hresolve]
    have htried : GrowsIn (OnTheWay env fs p system) fs (tried fs (asked env)) := by
      cases ho : asked env with
      | none => exact .refl _ fs
      | some o =>
        refine (hlinks.growsIn_makePath (normal_asked ho) (hasked o ho).2).mono ?_
        exact fun m hm => .inl ⟨o, ho, hm⟩
    -- the default directory is made in what trying the other one has left behind
    have hthen := (htried.noLinks hlinks).growsIn_makePath (normal_byDefault env p system) hup
    rw [htried.locate] at hthen
    dsimp only
    exact htried.trans (hthen.mono fun m hm => .inr ⟨hno, hm⟩)

end

end LogDirectory

namespace LogConfig

section
variable {c : LogConfig} {l l' : Logger} {h : LogHandle}

theorem fs_install_of_no_files (hno : ∀ k ∈ c.sinks, k.target ≠ .file)
    (hi : c.install l = (l', .ok h)) : l'.fs = l.fs := by
  obtain ⟨m, ids, hconf, hfs, -⟩ := configure_of_no_files hno l
  rw [install_of_configure hconf] at hi
  obtain ⟨rfl, -⟩ := Prod.mk.inj hi
  exact hfs

theorem fs_install {path : String} {maxSize : Int} {roller : Roller}
    (hone : c.sinks.filter (·.target = .file) = [.file path maxSize roller])
    (hlevel : c.level ≠ .off) (hi : c.install l = (l', .ok h)) :
    l'.fs = (LogFile.open? l.fs (l.openingTime c.sinks) path).1 := by
  have hhandlers : (c.handlers.map (·.1)).filter (·.target = .file) = [.file path maxSize roller] := by
    rwa [map_fst_handlers hlevel]
  have hfs := l.removeAll.fs_addAll_of_one_file hhandlers
  rw [map_fst_handlers hlevel] at hfs
  change (l.configure c.handlers).1.fs = (LogFile.open? l.fs (l.openingTime c.sinks) path).1 at hfs
  unfold install at hi
  split at hi
  · rename_i m ids hm
    obtain ⟨rfl, -⟩ := by simpa using hi
    rwa [hm] at hfs
  · -- what the refused file has left in the file system stays there
    rename_i m r hm
    obtain ⟨m', ids, hconf, hfs', hfiles⟩ := configure_of_no_files c.target_without m
    rw [hm] at hfs
    simp only [hconf] at hi
    obtain ⟨rfl, -⟩ := by simpa using hi
    exact (Logger.emit_of_no_files hfiles _).1.trans (hfs'.trans hfs)
  · simp at hi

end

section
variable {env : Environment} {fs fs' : FileSystem} {p : Platform} {r : Request} {c : LogConfig}
  {l l' : Logger} {h : LogHandle} {path : Path}

theorem Built.fs_install (hbuilt : Built env fs p r fs' c) (hr : fs.Rooted)
    (hliteral : ∀ path, c.logFile = some path → IsLiteral path.text) (hfs : l.fs = fs')
    (hi : c.install l = (l', .ok h)) : l'.fs = fs' := by
  subst hfs
  cases hpath : c.logFile with
  | none =>
    refine fs_install_of_no_files (fun k hk ht => ?_) hi
    exact (c.logFile_eq_none_iff.1 hpath) ((c.mem_targets _).2 ⟨k, hk, ht⟩)
  | some path =>
    obtain ⟨hlevel, -, maxSize, roller, -, -, -, -, hone⟩ := hbuilt.opened_of_logFile hpath
    obtain ⟨w, fs₀, id, hw, rfl, -, hfirst, hr', -⟩ :=
      hbuilt.exists_site hr hpath (hliteral _ hpath)
    rw [LogConfig.fs_install hone hlevel hi]
    exact LogFile.fs_open? hw hr' (reach_of_openAppend hfirst).2

/-- A handle tells of the log file that a configuration was built with, if the path of the file is
not too long when it is counted from the root. -/
theorem Built.logFile_iff (hbuilt : Built env fs p r fs' c) (hr : fs.Rooted)
    (hliteral : ∀ path, c.logFile = some path → IsLiteral path.text) (hfs : l.fs = fs')
    (hi : c.install l = (l', .ok h)) (hpath : c.logFile = some path) :
    h.logFile = some path ↔ byteLength (LogFile.absolute fs path.chars).chars < pathLimit := by
  subst hfs
  obtain ⟨hlevel, dir, maxSize, roller, id, hdir, hname, -, hone⟩ :=
    hbuilt.opened_of_logFile hpath
  constructor
  · intro hlog
    obtain ⟨w, fs₀, id, hw, rfl, -, -, hr', hhere⟩ :=
      hbuilt.exists_site hr hpath (hliteral _ hpath)
    obtain ⟨hconf, -, -⟩ := configure_of_logFile hi hlog
    have hhandlers : (c.handlers.map (·.1)).filter (·.target = .file) =
        [.file (w.path []).text maxSize roller] := by
      rwa [map_fst_handlers hlevel]
    obtain ⟨-, o, -, ho, -⟩ := Logger.addAll_of_one_file hhandlers hconf
    rw [hw.absolute_eq hr, ← hhere]
    exact LogFile.short_of_open? hw hr' ho
  · intro hshort
    obtain ⟨l₁, ids, hconf⟩ := hbuilt.configure hr (fun dir' hdir' => by
      obtain ⟨rfl, -⟩ := LogDirectory.Resolution.mk.inj (Except.ok.inj (hdir.symm.trans hdir'))
      exact hname ▸ ⟨hliteral _ hpath, hshort⟩) l rfl
    rw [install_of_configure hconf] at hi
    obtain ⟨-, hh⟩ := Prod.mk.inj hi
    obtain rfl := Except.ok.inj hh
    rw [ofConfig_of_level hlevel]
    exact hpath

theorem Built.addsOnly (hbuilt : Built env fs p r fs' c) (hlinks : fs.NoLinks)
    (hplain : ∀ d ∈ [LogDirectory.wanted env p r.system, LogDirectory.byDefault env p r.system],
      hasNull d.text = false ∧ ['.', '.'] ∉ d.names)
    (hliteral : ∀ path, c.logFile = some path → ['.', '.'] ∉ path.names) :
    (r.level = .off ∨ .file ∉ r.targets → fs' = fs) ∧
      AddsOnly (LogDirectory.OnTheWay env fs p r.system)
        (fun m => ∃ path, c.logFile = some path ∧ m = fs.locate path) fs fs' := by
  have hgrows : GrowsIn (LogDirectory.OnTheWay env fs p r.system) fs
      (LogDirectory.resolve env fs p r.system).1 := LogDirectory.growsIn_resolve hlinks hplain
  cases hbuilt with
  | off | unasked => exact ⟨fun _ => rfl, (GrowsIn.refl _ fs).addsOnly _⟩
  | invalid hon hfile | refused hon hfile =>
    exact ⟨fun h => absurd h (by simp [hon, hfile]), hgrows.addsOnly _⟩
  | opened hon hfile dir hdir path maxSize roller hsink fs' id hopen =>
    refine ⟨fun h => absurd h (by simp [hon, hfile]), ?_⟩
    obtain rfl := LogSite.path_of_ofProcess hsink
    have hnormal := LogSite.normal_filePaths (LogDirectory.normal_of_resolve hdir) r.process r.pid
    generalize (LogSink.filePaths dir r.process r.pid).1 = path at hopen hliteral hnormal ⊢
    have hlog := logFile_outlets_append r.level r path.text maxSize roller
    rw [Path.ofText_text hnormal] at hlog
    generalize (LogDirectory.resolve env fs p r.system).1 = fs₁ at hopen hgrows
    obtain rfl | ⟨hfree, hcreate⟩ :=
      (hgrows.noLinks hlinks).openAppend_cases hnormal (hliteral _ hlog) hopen
    · exact hgrows.addsOnly _
    · obtain ⟨rfl, -⟩ := Prod.mk.inj hcreate
      refine hgrows.create hfree ⟨path, hlog, ?_⟩
      rw [hgrows.locate]

end

end LogConfig

namespace Logger

theorem noUp_of_isLiteral {q : Path} (hq : q.Normal) (h : IsLiteral q.text) :
    ['.', '.'] ∉ q.names := by
  have hup := h.noUp
  rwa [Path.ofText_text hq] at hup

section
variable {l : Logger} {env : Environment} {p : Platform} {process : String} {pid : Int}
  {system : Option String}

/-- Setting logging up leaves behind what building the configuration does; the handle tells of the
log file of the configuration if its path is not too long when it is counted from the root. -/
theorem initialise_leaves (hs : l.fs.Sound) (hno : l.logFiles = [])
    (hplain : ∀ s ∈ [(LogDirectory.wanted env p system).text,
      (LogDirectory.byDefault env p system).text, process], IsLiteral s ∧ hasNull s = false) :
    ∃ l' h c, l.initialise env p process pid system = (l', .ok h) ∧
      LogConfig.Built env l.fs p (env.logRequest process pid system) l'.fs c ∧
      (∀ path, h.logFile = some path → c.logFile = some path) ∧
      ∀ path, c.logFile = some path → ∃ dir,
        (LogDirectory.resolve env l.fs p system).2.value = .ok ⟨dir, true⟩ ∧
        path = (LogSink.filePaths dir process pid).1 ∧ path.Normal ∧ IsLiteral path.text ∧
        (h.logFile = some path ↔
          byteLength (LogFile.absolute l.fs path.chars).chars < pathLimit) := by
  obtain ⟨l', h, hi⟩ : ∃ l' h, l.initialise env p process pid system = (l', .ok h) := by
    obtain ⟨h, hh⟩ := initialise_returns hs.rooted hplain
    exact ⟨_, h, Prod.ext rfl hh⟩
  obtain ⟨fs', c, m, hbuilt, hm, -, hinstall, -⟩ := initialise_built hno hi
  have hpath : ∀ path, c.logFile = some path → ∃ dir,
      (LogDirectory.resolve env l.fs p system).2.value = .ok ⟨dir, true⟩ ∧
      path = (LogSink.filePaths dir process pid).1 := by
    intro path hlog
    obtain ⟨-, dir, -, -, -, hdir, hname, -⟩ := hbuilt.opened_of_logFile hlog
    rw [Environment.system_logRequest] at hdir
    rw [Environment.process_logRequest, Environment.pid_logRequest] at hname
    exact ⟨dir, hdir, hname⟩
  have hliteral : ∀ path, c.logFile = some path → IsLiteral path.text := by
    intro path hlog
    obtain ⟨dir, hdir, rfl⟩ := hpath path hlog
    exact LogConfig.isLiteral_of_resolve hplain hdir
  obtain rfl := hbuilt.fs_install hs.rooted hliteral hm hinstall
  refine ⟨l', h, c, hi, hbuilt, (LogConfig.install_of_config hinstall).2.2, ?_⟩
  intro path hlog
  obtain ⟨dir, hdir, hname⟩ := hpath path hlog
  have hnormal := LogSite.normal_filePaths (LogDirectory.normal_of_resolve hdir) process pid
  exact ⟨dir, hdir, hname, hname ▸ hnormal, hliteral path hlog,
    hbuilt.logFile_iff hs.rooted hliteral hm hinstall hlog⟩

/-- Setting logging up, where there are no links and no log file is open yet, neither changes nor
takes away anything. Nothing at all is done where logging is off or no log file is asked for.
Otherwise what is new is a directory on the way to the one that is asked for, or to the default one
if the other cannot be had, or it is the log file, empty and in the directory that was found. The
handle tells of the log file if its path is not too long when it is counted from the root. -/
theorem initialise_addsOnly (hs : l.fs.Sound) (hlinks : l.fs.NoLinks) (hno : l.logFiles = [])
    (hplain : ∀ s ∈ [(LogDirectory.wanted env p system).text,
      (LogDirectory.byDefault env p system).text, process], IsLiteral s ∧ hasNull s = false) :
    let level := ((env.get? Variables.logLevel).bind Level.parse?).getD .warn
    ∃ l' h, l.initialise env p process pid system = (l', .ok h) ∧
      (level = .off ∨ .file ∉ env.logTargets → l'.fs = l.fs) ∧
      AddsOnly (LogDirectory.OnTheWay env l.fs p system)
        (fun m => ∃ dir,
          (LogDirectory.resolve env l.fs p system).2.value = .ok ⟨dir, true⟩ ∧
          let path := (LogSink.filePaths dir process pid).1
          m = l.fs.locate path ∧ (h.logFile = some path ↔
            byteLength (LogFile.absolute l.fs path.chars).chars < pathLimit))
        l.fs l'.fs := by
  intro level
  obtain ⟨l', h, c, hi, hbuilt, -, hlog⟩ := @initialise_leaves l env p process pid system hs hno hplain
  have hdirs : ∀ d ∈ [LogDirectory.wanted env p system, LogDirectory.byDefault env p system],
      hasNull d.text = false ∧ ['.', '.'] ∉ d.names := by
    intro d hd
    obtain rfl | rfl : d = LogDirectory.wanted env p system ∨
        d = LogDirectory.byDefault env p system := by simpa using hd
    · obtain ⟨hliteral, hnull⟩ := hplain (LogDirectory.wanted env p system).text (by simp)
      exact ⟨hnull, noUp_of_isLiteral (LogDirectory.normal_wanted env p system) hliteral⟩
    · obtain ⟨hliteral, hnull⟩ := hplain (LogDirectory.byDefault env p system).text (by simp)
      exact ⟨hnull, noUp_of_isLiteral (LogDirectory.normal_byDefault env p system) hliteral⟩
  obtain ⟨hsame, hadds⟩ := hbuilt.addsOnly hlinks hdirs fun path hpath => by
    obtain ⟨-, -, -, hnormal, hliteral, -⟩ := hlog path hpath
    exact noUp_of_isLiteral hnormal hliteral
  refine ⟨l', h, hi, fun hoff => hsame ?_, hadds.mono ?_⟩
  · exact hoff.imp_left fun hoff => env.value_logLevel.trans hoff
  · rintro m ⟨path, hpath, rfl⟩
    obtain ⟨dir, hdir, rfl, -, -, htold⟩ := hlog path hpath
    exact ⟨dir, hdir, rfl, htold⟩

end

/-- In an empty file system there are afterwards the directory that is asked for, the one in which
it lies, and the log file, of which the handle tells. -/
theorem initialise_addsOnly_in_directory :
    let env : Environment := .ofList [("ELASTIC_APM_PROFILER_LOG_DIR", "d/e")]
    let p : Platform := ⟨"Linux", "64", "/v", fun _ => none⟩
    let l : Logger := ⟨.fresh [['r']], [], 0, "", [], "", "", fun _ _ => default⟩
    let dir : Location := [['r'], ['d'], ['e']]
    let file : Location := dir ++ ["elastic_apm_profiler_p_1.log".toList]
    ∃ l' h, l.initialise env p "p" 1 none = (l', .ok h) ∧
      l'.fs.find? dir = some .dir ∧ l'.fs.find? file = some (.file 0) ∧
      h.logFile = some (.ofText "d/e/elastic_apm_profiler_p_1.log") ∧
      ∀ m e, l.fs.find? m = none → l'.fs.find? m = some e → e = .dir ∧ m <+: dir ∨ m = file := by
  intro env p l dir file
  obtain ⟨path, hpath⟩ : ∃ path : Path, path = .ofText "d/e/elastic_apm_profiler_p_1.log" := ⟨_, rfl⟩
  have hs : l.fs.Sound := sound_fresh (by decide)
  have hlinks : l.fs.NoLinks := noLinks_fresh _
  have hplain : ∀ s ∈ [(LogDirectory.wanted env p none).text,
      (LogDirectory.byDefault env p none).text, "p"], IsLiteral s ∧ hasNull s = false := by
    decide +kernel
  have hdir : (LogDirectory.resolve env l.fs p none).2.value = .ok ⟨.ofText "d/e", true⟩ :=
    eq_ok_of_toOption (by decide +kernel)
  have hname : (LogSink.filePaths (.ofText "d/e") "p" 1).1 = path := by
    rw [hpath]
    decide +kernel
  have hfile : l.fs.locate path = file := by
    rw [hpath]
    decide +kernel
  have hshort : byteLength (LogFile.absolute l.fs path.chars).chars < pathLimit := by
    rw [hpath]
    decide +kernel
  have honly : ∀ o ∈ LogDirectory.asked env,
      l.fs.locate o = dir ∧ LogDirectory.IsUsable l.fs o := by decide +kernel
  have hasked : (LogDirectory.asked env).isSome := by decide +kernel
  have hfree : l.fs.find? file = none := by decide +kernel
  have hmade : (l.initialise env p "p" 1 none).1.fs.find? dir = some .dir ∧
      (l.initialise env p "p" 1 none).1.fs.find? file = some (.file 0) := by decide +kernel
  have hno : l.logFiles = [] := rfl
  rw [← hpath]
  clear_value env p l dir file
  obtain ⟨l', h, hi, -, hadds⟩ := @initialise_addsOnly l env p "p" 1 none hs hlinks hno hplain
  rw [hi] at hmade
  refine ⟨l', h, hi, hmade.1, hmade.2, ?_, fun m e hm he => ?_⟩
  · obtain ⟨hno, -⟩ | ⟨⟨dir', hdir', -, htold⟩, -⟩ := hadds.added _ _ hfree hmade.2
    · simp at hno
    · obtain ⟨rfl, -⟩ := LogDirectory.Resolution.mk.inj (Except.ok.inj (hdir.symm.trans hdir'))
      rw [hname] at htold
      exact htold.2 hshort
  · obtain ⟨rfl, ⟨o, ho, hway⟩ | ⟨hunusable, -⟩⟩ | ⟨⟨dir', hdir', hm', -⟩, -⟩ := hadds.added m e hm he
    · exact .inl ⟨rfl, (honly o ho).1 ▸ hway⟩
    · obtain ⟨o, ho⟩ := Option.isSome_iff_exists.1 hasked
      exact absurd (honly o ho).2 (hunusable o ho)
    · obtain ⟨rfl, -⟩ := LogDirectory.Resolution.mk.inj (Except.ok.inj (hdir.symm.trans hdir'))
      exact .inr (hm'.trans (hname ▸ hfile))

/-- The path of a log file can be too long only when it is counted from the root. Then the file that
was opened first stays there, and the handle tells of none. -/
theorem log_file_stays_untold :
    let here : Location := List.replicate 16 (List.replicate 254 'a')
    let env : Environment := .ofList [("ELASTIC_APM_PROFILER_LOG_DIR", "d")]
    let p : Platform := ⟨"Linux", "64", "/var/log/elastic/apm-agent-dotnet", fun _ => none⟩
    let l : Logger := ⟨.fresh here, [], 0, "", [], "", "", fun _ _ => default⟩
    let file : Location := here ++ [['d'], "elastic_apm_profiler_p_1.log".toList]
    ∃ l' h, l.initialise env p "p" 1 none = (l', .ok h) ∧ h.logFile = none ∧
      l.fs.find? file = none ∧ l'.fs.find? file = some (.file 0) := by
  intro here env p l file
  have hs : l.fs.Sound := sound_fresh fun n hn => by
    obtain rfl := List.eq_of_mem_replicate hn
    decide +kernel
  have hplain : ∀ s ∈ [(LogDirectory.wanted env p none).text,
      (LogDirectory.byDefault env p none).text, "p"], IsLiteral s ∧ hasNull s = false := by
    decide +kernel
  have hdir : (LogDirectory.resolve env l.fs p none).2.value = .ok ⟨.ofText "d", true⟩ :=
    eq_ok_of_toOption (by decide +kernel)
  have hopens : ((LogDirectory.resolve env l.fs p none).1.openAppend
      (LogSink.filePaths (.ofText "d") "p" 1).1.text).toOption.map (·.1.find? file) =
        some (some (.file 0)) := by decide +kernel
  have hlong : pathLimit ≤ byteLength
      (LogFile.absolute l.fs (LogSink.filePaths (.ofText "d") "p" 1).1.chars).chars := by
    decide +kernel
  have hfree : l.fs.find? file = none := by decide +kernel
  have hasked : (env.logRequest "p" 1 none).level ≠ .off ∧
      .file ∈ (env.logRequest "p" 1 none).targets := by decide +kernel
  have hno : l.logFiles = [] := rfl
  clear_value here env p l file
  obtain ⟨l', h, c, hi, hbuilt, hconfig, htold⟩ := @initialise_leaves l env p "p" 1 none hs hno hplain
  obtain ⟨path, hlog⟩ : ∃ path, c.logFile = some path := by
    obtain ⟨opened, hopen, -⟩ := Option.map_eq_some_iff.1 hopens
    have hfile := hbuilt.file_iff hasked.1
    simp only [Environment.system_logRequest, Environment.process_logRequest,
      Environment.pid_logRequest] at hfile
    refine Option.ne_none_iff_exists'.1 fun hnone => c.logFile_eq_none_iff.1 hnone ?_
    exact hfile.2 ⟨hasked.2, _, opened, hdir, eq_ok_of_toOption hopen⟩
  obtain ⟨dir', hdir', rfl, -, -, hshort⟩ := htold path hlog
  obtain ⟨rfl, -⟩ := LogDirectory.Resolution.mk.inj (Except.ok.inj (hdir.symm.trans hdir'))
  refine ⟨l', h, hi, Option.eq_none_iff_forall_ne_some.2 fun q hq => ?_, hfree, ?_⟩
  · obtain rfl := Option.some.inj (hlog.symm.trans (hconfig q hq))
    exact Nat.not_le.2 (hshort.1 hq) hlong
  · obtain ⟨-, dir, -, -, id, -, -, hopen, -⟩ := hbuilt.opened_of_logFile hlog
    rw [Environment.system_logRequest] at hopen
    rw [hopen] at hopens
    exact Option.some.inj hopens

end Logger

end ProfilerBootstrap
