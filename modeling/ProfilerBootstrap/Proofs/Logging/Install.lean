import ProfilerBootstrap.Proofs.Logging.Files
import ProfilerBootstrap.Proofs.Logging.Opening

namespace ProfilerBootstrap

namespace Logger

theorem addAll_error_iff {hs : List (LogSink × Severity)} {path : String} {maxSize : Int}
    {roller : Roller} (hone : (hs.map (·.1)).filter (·.target = .file) = [.file path maxSize roller])
    (l : Logger) (e : LogFileError) :
    (l.addAll hs).2 = .error e ↔
      (LogFile.open? l.fs (l.openingTime (hs.map (·.1))) path).2 = .error e := by
  induction hs generalizing l with
  | nil => simp at hone
  | cons k hs ih =>
    obtain ⟨sink, s⟩ := k
    rw [addAll.eq_2]
    cases sink with
    | stdout =>
      have ih := ih (by simpa [LogSink.target] using hone) (l.add s.number .stdout)
      change _ ↔ (LogFile.open? l.fs (l.clock _ 0).time path).2 = .error e at ih
      rw [List.map_cons, openingTime, fileNumber_stdout l _ s.number, ← ih]
      simp only [openSink]
      cases ((l.add s.number .stdout).addAll hs).2 <;> simp [Except.map]
    | file path' maxSize' roller' =>
      obtain ⟨⟨rfl, rfl, rfl⟩, hno⟩ :
          (path' = path ∧ maxSize' = maxSize ∧ roller' = roller) ∧
            (hs.map (·.1)).filter (·.target = .file) = [] := by
        simpa [LogSink.target] using hone
      have hno : ∀ k ∈ hs, k.1.target ≠ .file := by
        intro k hk
        have h := List.filter_eq_nil_iff.1 hno k.1 (List.mem_map_of_mem hk)
        simpa using h
      have hnumber : l.fileNumber (LogSink.file path' maxSize' roller' :: hs.map (·.1)) = l.nextId :=
        l.fileNumber_file ..
      simp only [openSink, List.map_cons, openingTime, hnumber]
      cases hopen : LogFile.open? l.fs (l.clock l.nextId 0).time path' with
      | mk fs opened =>
        cases opened with
        | error e' => simp [Except.map]
        | ok o =>
          -- once the file is open, nothing is left that could fail
          obtain ⟨l', ids, hadd, -⟩ := addAll_of_no_files
            (add { l with fs := fs } s.number
              (.file ⟨path', maxSize', roller', some o, fun n => l.clock l.nextId (n + 1)⟩)) hno
          simp [Except.map, hadd]

end Logger

namespace LogConfig

variable {c : LogConfig} {l l' : Logger}

theorem severity_of_level {level : Level} (h : level ≠ .off) : ∃ s, level.severity? = some s := by
  cases level <;> simp_all [Level.severity?]

theorem handlers_of_level (h : c.level ≠ .off) : ∃ s, c.handlers = c.sinks.map (·, s) := by
  obtain ⟨s, hs⟩ := severity_of_level h
  exact ⟨s, by simp [handlers, hs]⟩

theorem map_fst_handlers (h : c.level ≠ .off) : c.handlers.map (·.1) = c.sinks := by
  obtain ⟨s, hs⟩ := handlers_of_level h
  simp [hs, Function.comp_def]

theorem configure_of_no_files (h : ∀ k ∈ c.sinks, k.target ≠ .file) (l : Logger) :
    ∃ l' ids, l.configure c.handlers = (l', .ok ids) ∧ l'.fs = l.fs ∧ l'.logFiles = [] := by
  have hno : ∀ k ∈ c.handlers, k.1.target ≠ .file := by
    unfold handlers
    split
    · simp
    · intro k hk
      obtain ⟨sink, hsink, rfl⟩ := List.mem_map.1 hk
      exact h sink hsink
  exact l.removeAll.addAll_of_no_files hno

theorem target_without (c : LogConfig) : ∀ k ∈ (c.without .file).sinks, k.target ≠ .file :=
  fun k hk => by simpa using (List.mem_filter.1 hk).2

theorem install_of_no_files (h : ∀ k ∈ c.sinks, k.target ≠ .file) (l : Logger) :
    ∃ h, (c.install l).2 = .ok h := by
  obtain ⟨l', ids, hconf, -⟩ := configure_of_no_files h l
  exact ⟨.ofConfig c ids, by simp [install, hconf]⟩

/-- A configuration cannot be installed where its log file cannot be opened, and not because the
file system refuses it. -/
theorem install_error_iff {path : String} {maxSize : Int} {roller : Roller}
    (hone : c.sinks.filter (·.target = .file) = [.file path maxSize roller]) (hlevel : c.level ≠ .off)
    (l : Logger) (e : LogFileError) :
    (c.install l).2 = .error e ↔
      (LogFile.open? l.fs (l.openingTime c.sinks) path).2 = .error e ∧
        ∀ r, e ≠ .files (.refused r) := by
  have hhandlers : (c.handlers.map (·.1)).filter (·.target = .file) = [.file path maxSize roller] := by
    rwa [map_fst_handlers hlevel]
  have hadd := Logger.addAll_error_iff hhandlers l.removeAll
  rw [map_fst_handlers hlevel] at hadd
  change ∀ e, (l.configure c.handlers).2 = _ ↔
    (LogFile.open? l.fs (l.openingTime c.sinks) path).2 = _ at hadd
  unfold install
  split
  · rename_i m ids hconf
    rw [← hadd e, hconf]
    simp
  · rename_i m r hconf
    -- the file was refused, and what is left without it can be installed
    obtain ⟨m', ids, hconf', -⟩ := configure_of_no_files c.target_without m
    rw [← hadd e, hconf]
    have hrefused : ¬ (e = .files (.refused r) ∧ ∀ r, e ≠ .files (.refused r)) := fun h => h.2 r h.1
    simpa [hconf', eq_comm] using hrefused
  · rename_i m e' hrefused hconf
    rw [← hadd e, hconf]
    have hother : e' = e → ∀ r, e ≠ .files (.refused r) := by
      rintro rfl r rfl
      exact hrefused r rfl
    simpa using hother

theorem mem_activeTargets_ofConfig {k : LogSink} (hk : k ∈ c.sinks) (hlevel : c.level ≠ .off)
    (ids : List Nat) : k.target ∈ (LogHandle.ofConfig c ids).activeTargets := by
  obtain ⟨s, hs⟩ := handlers_of_level hlevel
  have hne : c.handlers ≠ [] := by
    rw [hs]
    exact List.ne_nil_of_mem (List.mem_map_of_mem hk)
  have htarget : k.target ∈ c.targets := (c.mem_targets _).2 ⟨k, hk, rfl⟩
  simpa [LogHandle.ofConfig, hne] using htarget

theorem stdout_of_install {h : LogHandle} (hi : (c.install l).2 = .ok h) (hlevel : c.level ≠ .off)
    (hstdout : .stdout ∈ c.sinks) : .stdout ∈ h.activeTargets := by
  have hpair : c.install l = ((c.install l).1, .ok h) := Prod.ext rfl hi
  obtain ⟨c', ids, m, m', hc', -, -, rfl, -⟩ := install_ok hpair
  rcases hc' with rfl | rfl
  · exact mem_activeTargets_ofConfig hstdout hlevel ids
  · have hkept : .stdout ∈ (c.without .file).sinks := List.mem_filter.2 ⟨hstdout, rfl⟩
    exact mem_activeTargets_ofConfig hkept hlevel ids

end LogConfig

end ProfilerBootstrap
