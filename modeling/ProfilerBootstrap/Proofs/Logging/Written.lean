import ProfilerBootstrap.Proofs.LogDirectory.Twice
import ProfilerBootstrap.Proofs.Logging.Attached
import ProfilerBootstrap.Proofs.Logging.Backups
import ProfilerBootstrap.Proofs.Logging.Reopen

namespace ProfilerBootstrap

open FileSystem

namespace LogSite

/-- The path of a site and the one counted from the root lead to the same, if the latter is not too
long. -/
theorem reach_absolute_iff {w : LogSite} {fs : FileSystem} (hr : fs.Rooted) (hw : w.Valid)
    {mark : Name} (hslash : '/' ∉ mark)
    (hshort : byteLength ((w.absolute fs.here).path mark).chars < pathLimit) {follow : Bool}
    {q : Place} :
    fs.reach follow (w.path mark).text = .ok q ↔
      fs.reach follow ((w.absolute fs.here).path mark).text = .ok q := by
  refine ⟨reach_absolute hr hw hslash hshort, fun h => ?_⟩
  have hnormal := (hw.absolute hr.plain).normal hslash
  have hfits := fits_of_absolute (of_reach_snoc hnormal ((w.absolute fs.here).name_noUp mark) h).1
  obtain ⟨-, hwalk⟩ := reach_eq_ok.1 h
  rw [walk_text hnormal, if_neg (Nat.not_le.2 hshort)] at hwalk
  refine reach_eq_ok.2 ⟨hfits.noNull, ?_⟩
  have hfit : byteLength (w.path mark).chars < pathLimit := hfits.text
  rw [walk_text (hw.normal hslash), if_neg (Nat.not_le.2 hfit)]
  exact (walkFrom_absolute hr w follow greatestLinks [w.name mark]).symm.trans hwalk

end LogSite

namespace LogConfig

section
variable {c : LogConfig} {l l' : Logger} {h : LogHandle} {path : Path}

theorem configure_of_logFile (hi : c.install l = (l', .ok h)) (hpath : h.logFile = some path) :
    l.configure c.handlers = (l', .ok h.handlerIds) ∧ h.level = c.level ∧
      c.logFile = some path := by
  obtain ⟨hlevel, -, hlog⟩ := install_of_config hi
  refine ⟨?_, hlevel, hlog path hpath⟩
  unfold install at hi
  split at hi
  · rename_i m ids hm
    obtain ⟨rfl, rfl⟩ := by simpa using hi
    rw [LogHandle.handlerIds_ofConfig]
    exact hm
  · simp only at hi
    split at hi
    · simp at hi
    · -- the second try is without the file
      obtain ⟨-, rfl⟩ := by simpa using hi
      unfold LogHandle.ofConfig at hpath
      split at hpath <;> simp [logFile_without] at hpath
  · simp at hi

variable {env : Environment} {fs fs' : FileSystem} {p : Platform} {r : Request}

theorem logFiles_of_configure {s : Severity} (hs : c.level.severity? = some s) {path : String}
    {maxSize : Int} {roller : Roller}
    (hone : c.sinks.filter (·.target = .file) = [.file path maxSize roller]) {ids : List Nat}
    (hconf : l.configure c.handlers = (l', .ok ids)) :
    ∃ o, LogFile.open? l.fs (l.openingTime c.sinks) path = (l'.fs, .ok o) ∧
      l'.logFiles = [(s.number, ⟨path, maxSize, roller, some o,
        fun n => l.clock (l.fileNumber c.sinks) (n + 1)⟩)] := by
  have hmap : c.handlers = c.sinks.map (·, s) := by simp [handlers, hs]
  have hsinks : c.handlers.map (·.1) = c.sinks := by simp [hmap, Function.comp_def]
  rw [← hsinks] at hone
  obtain ⟨s', o, hmem, hopen, hfiles⟩ := Logger.addAll_of_one_file hone hconf
  obtain rfl : s = s' := by
    rw [hmap] at hmem
    obtain ⟨k, -, hpair⟩ := List.mem_map.1 hmem
    exact (Prod.mk.inj hpair).2
  rw [hsinks] at hopen hfiles
  rw [Logger.logFiles_removeAll, List.nil_append] at hfiles
  exact ⟨o, hopen, hfiles⟩

theorem writesTo_of_configure (hstocked : l.fs.Stocked) {s : Severity}
    (hs : c.level.severity? = some s) {path : String} {maxSize : Int} {roller : Roller}
    (hone : c.sinks.filter (·.target = .file) = [.file path maxSize roller]) {ids : List Nat}
    (hconf : l.configure c.handlers = (l', .ok ids)) :
    ∃ o, LogFile.open? l.fs (l.openingTime c.sinks) path = (l'.fs, .ok o) ∧
      l'.openPath? = some o.path ∧ l'.WritesTo s.number fun q =>
        ∃ n, LogFile.path l.fs (l.clock (l.fileNumber c.sinks) n).time path = .ok q := by
  obtain ⟨o, hopen, hfiles⟩ := logFiles_of_configure hs hone hconf
  refine ⟨o, hopen, Logger.openPath?_of_one_file hfiles, _, hfiles, ?_⟩
  exact LogFile.attached_of_open? (l.clock (l.fileNumber c.sinks)) hstocked hopen maxSize roller

theorem fileNumber_mem {path : String} {maxSize : Int} {roller : Roller}
    (hone : c.sinks.filter (·.target = .file) = [.file path maxSize roller])
    (hlevel : c.level ≠ .off) {ids : List Nat} (hconf : l.configure c.handlers = (l', .ok ids)) :
    l.fileNumber c.sinks ∈ ids := by
  obtain ⟨s, hs⟩ := handlers_of_level hlevel
  have hlength : c.handlers.length = c.sinks.length := by rw [hs, List.length_map]
  have hplace : c.sinks.findIdx (·.target = .file) < c.sinks.length := by
    refine List.findIdx_lt_length_of_exists ⟨.file path maxSize roller, ?_, by simp [LogSink.target]⟩
    exact (List.mem_filter.1 (hone ▸ List.mem_singleton_self _)).1
  rw [(Logger.configure_ok hconf).1, hlength, Logger.fileNumber, List.mem_range'_1]
  omega

theorem Built.writesTo (hbuilt : Built env fs p r fs' c) (hfs : l.fs = fs') (hstocked : fs'.Stocked)
    (hi : c.install l = (l', .ok h)) (hpath : h.logFile = some path) :
    ∃ number ∈ h.handlerIds, ∃ s o,
      LogFile.open? fs' (l.clock number 0).time path.text = (l'.fs, .ok o) ∧
      h.level.severity? = some s ∧ l'.openPath? = some o.path ∧
      l'.WritesTo s.number fun q =>
        ∃ n, LogFile.path fs' (l.clock number n).time path.text = .ok q := by
  obtain ⟨hconf, hlevel, hlog⟩ := configure_of_logFile hi hpath
  obtain ⟨hon, dir, maxSize, roller, id, -, -, -, hone⟩ := hbuilt.opened_of_logFile hlog
  obtain ⟨s, hs⟩ := severity_of_level hon
  subst hfs
  obtain ⟨o, hopen, hstart, hwrites⟩ := writesTo_of_configure hstocked hs hone hconf
  exact ⟨l.fileNumber c.sinks, fileNumber_mem hone hon hconf, s, o, hopen, hlevel ▸ hs, hstart,
    hwrites⟩

/-- The log file of a configuration that was built has a site, if its path is taken as it is
written, and was opened there. -/
theorem Built.exists_site (hbuilt : Built env fs p r fs' c) (hr : fs.Rooted)
    (hpath : c.logFile = some path) (hliteral : IsLiteral path.text) :
    ∃ (w : LogSite) (fs₀ : FileSystem) (id : FileId), w.Literal ∧ path = w.path [] ∧
      fs₀.Rooted ∧ fs₀.openAppend path.text = .ok (fs', id) ∧ fs'.Rooted ∧ fs'.here = fs.here := by
  obtain ⟨-, dir, -, -, id, hdir, hname, hfirst, -⟩ := hbuilt.opened_of_logFile hpath
  obtain ⟨w, hw, hactive, -⟩ :=
    LogSite.exists_of_filePaths (LogDirectory.normal_of_resolve hdir) r.process r.pid
  obtain rfl := hname.trans hactive
  have hgrows := LogDirectory.grows_resolve env fs p r.system
  have hext := (reach_of_openAppend hfirst).1
  exact ⟨w, _, id, hw.literal hliteral, rfl, hgrows.rooted hr, hfirst,
    hext.rooted (hgrows.rooted hr), hext.here.trans hgrows.here⟩

/-- A log file whose path is taken as it is written is opened at this path at any time, and nothing
is made for it. -/
theorem Built.writesTo_literal (hbuilt : Built env fs p r fs' c) (hr : fs.Rooted)
    (hpath : c.logFile = some path) (hliteral : IsLiteral path.text) {t : FileName.Time}
    {fs₁ : FileSystem} {o : OpenFile} (hopen : LogFile.open? fs' t path.text = (fs₁, .ok o)) :
    fs₁ = fs' ∧ (∀ t', LogFile.path fs' t' path.text = .ok o.path) ∧
      ∀ fs₂ : FileSystem, fs₂.Rooted → fs₂.here = fs.here → ∀ q,
        fs₂.reach true path.text = .ok q ↔ fs₂.reach true o.path.text = .ok q := by
  obtain ⟨w, fs₀, id, hw, rfl, hr₀, hfirst, hr', hhere'⟩ := hbuilt.exists_site hr hpath hliteral
  have hshort := LogFile.short_of_open? hw hr' hopen
  have hstays : fs'.here = fs₀.here := (reach_of_openAppend hfirst).1.here
  have hagain := LogFile.open?_of_openAppend (t := t) hw hr₀ (hstays ▸ hshort) hfirst
  obtain ⟨rfl, ho⟩ := Prod.mk.inj (hopen.symm.trans hagain)
  obtain rfl := Except.ok.inj ho
  refine ⟨rfl, hw.path_eq hr', fun fs₂ hr₂ hhere q => ?_⟩
  have hsame : fs₂.here = fs₁.here := hhere.trans hhere'.symm
  rw [← hsame] at hshort ⊢
  exact LogSite.reach_absolute_iff hr₂ hw.valid List.not_mem_nil hshort

end

end LogConfig

/-- Where logging reports a log file, its lines go to the file at the path that the reported one
stands for as a name with fields, counted from the root and without points. From then on every
record that is severe enough is at the end of the file that is open when it has been logged, and
this one is at a path that the name stands for at some moment. Where none is rolled, the same file
stays open, and the line is added to what it held. A path with no braces and no way up always stands
for itself, and then installing the sink has made nothing. -/
theorem Logger.initialise_writes {l l' : Logger} {env : Environment} {p : Platform}
    {process : String} {pid : Int} {system : Option String} {h : LogHandle} {path : Path}
    (hstocked : l.fs.Stocked) (hno : l.logFiles = [])
    (hi : l.initialise env p process pid system = (l', .ok h)) (hpath : h.logFile = some path) :
    ∃ number ∈ h.handlerIds, ∃ target s,
      LogFile.path l.fs (l.clock number 0).time path.text = .ok target ∧
      h.level.severity? = some s ∧ l'.openPath? = some target ∧
      (∀ rs now r, s.number ≤ r.severity.number →
        let before := l'.logAll rs
        let after := { before with now := now }.emit r
        (∀ q, before.openPath? = some q → before.isDue (r.line now) = false →
          after.openPath? = some q ∧
          after.fs.contentAt q.text = before.fs.contentAt q.text ++ (r.line now).toUTF8) ∧
        ∀ q, after.openPath? = some q →
          (∃ n, LogFile.path l.fs (l.clock number n).time path.text = .ok q) ∧
          ∃ text, after.fs.contentAt q.text = text ++ (r.line now).toUTF8) ∧
      (l.fs.Rooted → IsLiteral path.text →
        l'.fs = (LogConfig.build env l.fs p (env.logRequest process pid system)).1 ∧
        (∀ t, LogFile.path l.fs t path.text = .ok target) ∧
        ∀ fs : FileSystem, fs.Rooted → fs.here = l.fs.here →
          fs.contentAt path.text = fs.contentAt target.text) := by
  obtain ⟨fs', c, m, hbuilt, hm, -, hinstall, hfs, hclock⟩ := initialise_built hno hi
  have hhere := hbuilt.kept (kept_here l.fs.here) rfl
  have hsame : ∀ t, LogFile.path fs' t path.text = LogFile.path l.fs t path.text := fun t =>
    LogFile.path_congr hhere t _
  obtain ⟨number, hnumber, s, o, hopen, hs, hstart, hwrites⟩ :=
    hbuilt.writesTo hm (hbuilt.kept kept_stocked hstocked) hinstall hpath
  have hlog := (LogConfig.configure_of_logFile hinstall hpath).2.2
  simp only [hsame, hclock] at hwrites
  refine ⟨number, hnumber, o.path, s, ?_, hs, hstart, fun rs now r hr => ?_, fun hr hliteral => ?_⟩
  · rw [← hsame, ← hclock]
    exact (LogFile.leadsToFile_of_open? hopen).1
  · have hbefore := hwrites.logAll rs
    refine ⟨fun q hq hdue => ?_, fun q hq => ?_⟩
    · have hstays := hbefore.openPath?_emit now r hq hdue
      obtain ⟨-, text, hcontent, hheld⟩ := hbefore.contentAt_emit now r hr hstays
      rw [(hheld q hq hdue).2] at hcontent
      exact ⟨hstays, hcontent⟩
    · obtain ⟨hstands, text, hcontent, -⟩ := hbefore.contentAt_emit now r hr hq
      exact ⟨hstands, text, hcontent⟩
  · obtain ⟨hmade, hstands, hreach⟩ := hbuilt.writesTo_literal hr hlog hliteral hopen
    refine ⟨hmade.trans hfs.symm, fun t => (hsame t).symm.trans (hstands t), fun fs₂ hr₂ hhere₂ => ?_⟩
    exact contentAt_congr (hreach fs₂ hr₂ hhere₂)

/-- Doubled braces in the name of a process stand for single ones in the name of the file. The line
is in this file, and the one that is reported stays empty. -/
theorem Logger.initialise_writes_elsewhere :
    let env : Environment := .ofList [("ELASTIC_APM_PROFILER_LOG_DIR", "d")]
    let p : Platform := ⟨"Linux", "64", "/v", fun _ => none⟩
    let l : Logger := ⟨.fresh [['r']], [], 0, "", [], "", "", fun _ _ => default⟩
    let reported : Path := .ofText "d/elastic_apm_profiler_\x7b\x7bx\x7d\x7d_1.log"
    let r : LogRecord := ⟨.error, "lost"⟩
    ∃ l' h, l.initialise env p "\x7b\x7bx\x7d\x7d" 1 none = (l', .ok h) ∧
      h.logFile = some reported ∧ h.level = .warn ∧
      (l'.emit r).fs.contentAt reported.text = .empty ∧
      (l'.emit r).fs.contentAt "/r/d/elastic_apm_profiler_\x7bx\x7d_1.log" =
        (r.line l'.now).toUTF8 := by
  intro env p l reported r
  have hs : l.fs.Sound := sound_fresh (by decide)
  have hno : l.logFiles = [] := rfl
  have hclock : l.clock = fun _ _ => default := rfl
  obtain ⟨result, hresult⟩ : ∃ result, result = l.initialise env p "\x7b\x7bx\x7d\x7d" 1 none :=
    ⟨_, rfl⟩
  have hreturned : result.2.toOption.map (fun h => (h.logFile, h.level)) =
      some (some reported, .warn) := by
    rw [hresult]
    decide +kernel
  let written : Path := .ofText "/r/d/elastic_apm_profiler_\x7bx\x7d_1.log"
  have htext : written.text = "/r/d/elastic_apm_profiler_\x7bx\x7d_1.log" := by decide +kernel
  have hpath : LogFile.path l.fs (default : Moment).time reported.text = .ok written :=
    eq_ok_of_toOption (by decide +kernel)
  have hempty : (result.1.emit r).fs.contentAt reported.text = .empty := by
    rw [hresult]
    decide +kernel
  have hbefore : result.1.fs.contentAt written.text = .empty := by
    rw [hresult]
    decide +kernel
  have hdue : result.1.isDue (r.line result.1.now) = false := by
    rw [hresult]
    decide +kernel
  rw [← htext]
  clear_value env p l reported written
  obtain ⟨l', h | h⟩ := result
  · simp [Except.toOption] at hreturned
  obtain ⟨hlog, hlevel⟩ : h.logFile = some reported ∧ h.level = .warn := by
    simpa [Except.toOption] using hreturned
  obtain ⟨number, -, target, s, htarget, hs, hopen, hwrites, -⟩ :=
    initialise_writes hs.stocked hno hresult.symm hlog
  rw [hclock] at htarget
  obtain rfl : written = target := Except.ok.inj (hpath.symm.trans htarget)
  rw [hlevel] at hs
  obtain rfl : Severity.warning = s := Option.some.inj hs
  obtain ⟨-, hcontent⟩ := (hwrites [] l'.now r (by decide)).1 written hopen hdue
  refine ⟨l', h, hresult.symm, hlog, hlevel, hempty, hcontent.trans ?_⟩
  exact (congrArg (· ++ _) hbefore).trans ByteArray.empty_append

end ProfilerBootstrap
