import ProfilerBootstrap.Logging.History
import ProfilerBootstrap.Proofs.Logging.Handlers

namespace ProfilerBootstrap

namespace Logger

section
variable {l : Logger} {r : LogRecord}

theorem now_handle (l : Logger) (k : Handler) (r : LogRecord) : (l.handle k r).1.now = l.now := by
  obtain ⟨id, threshold, sink⟩ := k
  unfold handle
  split
  · rfl
  · cases sink <;> rfl

theorem handle_of_no_file {k : Handler} (h : k.logFile? = none) :
    (l.handle k r).1.fs = l.fs ∧ (l.handle k r).2.logFile? = none := by
  obtain ⟨id, threshold, sink⟩ := k
  unfold handle
  split
  · exact ⟨rfl, h⟩
  · cases sink with
    | file f => simp [Handler.logFile?] at h
    | capture => exact ⟨rfl, rfl⟩
    | stdout => exact ⟨rfl, rfl⟩
    | stderr => exact ⟨rfl, rfl⟩

def written (fs : FileSystem) (threshold : Nat) (f : LogFile) (r : LogRecord) (line : String) :
    FileSystem × LogFile :=
  if r.severity.number < threshold then (fs, f) else f.write fs line

theorem handle_of_file {k : Handler} {t : Nat} {f : LogFile} (h : k.logFile? = some (t, f)) :
    (l.handle k r).1.fs = (written l.fs t f r (r.line l.now)).1 ∧
      (l.handle k r).2.logFile? = some (t, (written l.fs t f r (r.line l.now)).2) := by
  obtain ⟨id, threshold, sink⟩ := k
  cases sink with
  | file g =>
    obtain ⟨rfl, rfl⟩ : threshold = t ∧ g = f := by simpa [Handler.logFile?] using h
    unfold handle written
    dsimp only
    split
    · exact ⟨rfl, rfl⟩
    · exact ⟨rfl, rfl⟩
  | capture => simp [Handler.logFile?] at h
  | stdout => simp [Handler.logFile?] at h
  | stderr => simp [Handler.logFile?] at h

theorem handleAll_of_no_files (l : Logger) (r : LogRecord) {ks : List Handler}
    (h : ks.filterMap Handler.logFile? = []) :
    (l.handleAll r ks).1.fs = l.fs ∧ (l.handleAll r ks).2.filterMap Handler.logFile? = [] := by
  induction ks generalizing l with
  | nil => exact ⟨rfl, rfl⟩
  | cons k ks ih =>
    obtain ⟨hk, hks⟩ : k.logFile? = none ∧ ks.filterMap Handler.logFile? = [] := by
      rw [List.filterMap_cons] at h
      cases hk : k.logFile? with
      | none => exact ⟨rfl, by simpa [hk] using h⟩
      | some f => simp [hk] at h
    obtain ⟨hfs, hnone⟩ := handle_of_no_file (l := l) (r := r) hk
    obtain ⟨hfs', hrest⟩ := ih (l.handle k r).1 hks
    rw [handleAll_cons, List.filterMap_cons_none hnone]
    exact ⟨hfs'.trans hfs, hrest⟩

/-- With one log file among the handlers, a record is written to this file or not at all. -/
theorem handleAll_of_one_file (l : Logger) (r : LogRecord) {ks : List Handler} {t : Nat} {f : LogFile}
    (h : ks.filterMap Handler.logFile? = [(t, f)]) :
    (l.handleAll r ks).1.fs = (written l.fs t f r (r.line l.now)).1 ∧
      (l.handleAll r ks).2.filterMap Handler.logFile? =
        [(t, (written l.fs t f r (r.line l.now)).2)] := by
  induction ks generalizing l with
  | nil => simp at h
  | cons k ks ih =>
    rw [List.filterMap_cons] at h
    rw [handleAll_cons]
    cases hk : k.logFile? with
    | none =>
      obtain ⟨hfs, hnone⟩ := handle_of_no_file (l := l) (r := r) hk
      obtain ⟨hfs', hrest⟩ := ih (l.handle k r).1 (by simpa [hk] using h)
      rw [now_handle, hfs] at hfs' hrest
      rw [List.filterMap_cons_none hnone]
      exact ⟨hfs', hrest⟩
    | some g =>
      obtain ⟨rfl, hks⟩ : g = (t, f) ∧ ks.filterMap Handler.logFile? = [] := by simpa [hk] using h
      obtain ⟨hfs, hsome⟩ := handle_of_file (l := l) (r := r) hk
      obtain ⟨hfs', hrest⟩ := handleAll_of_no_files (l.handle k r).1 r hks
      rw [List.filterMap_cons_some hsome, hrest]
      exact ⟨hfs'.trans hfs, rfl⟩

end

/-- The number that the handler for the log file gets when these sinks are added. -/
def fileNumber (l : Logger) (sinks : List LogSink) : Nat :=
  l.nextId + sinks.findIdx (·.target = .file)

/-- The moment at which the log file is opened when these sinks are added. -/
def openingTime (l : Logger) (sinks : List LogSink) : FileName.Time :=
  (l.clock (l.fileNumber sinks) 0).time

theorem fileNumber_stdout (l : Logger) (sinks : List LogSink) (threshold : Nat) :
    l.fileNumber (.stdout :: sinks) = (l.add threshold .stdout).fileNumber sinks := by
  simp only [fileNumber, add, List.findIdx_cons, LogSink.target, reduceCtorEq, decide_false,
    cond_false]
  omega

theorem fileNumber_file (l : Logger) (path : String) (maxSize : Int) (roller : Roller)
    (sinks : List LogSink) : l.fileNumber (.file path maxSize roller :: sinks) = l.nextId := by
  simp [fileNumber, List.findIdx_cons, LogSink.target]

theorem addAll_of_no_files (l : Logger) {hs : List (LogSink × Severity)}
    (h : ∀ k ∈ hs, k.1.target ≠ .file) :
    ∃ l' ids, l.addAll hs = (l', .ok ids) ∧ l'.fs = l.fs ∧ l'.logFiles = l.logFiles := by
  induction hs generalizing l with
  | nil => exact ⟨l, [], rfl, rfl, rfl⟩
  | cons k hs ih =>
    obtain ⟨sink, s⟩ := k
    have hk : sink = .stdout := by
      cases sink with
      | stdout => rfl
      | file path maxSize roller => exact absurd rfl (h _ List.mem_cons_self)
    subst hk
    obtain ⟨l', ids, hadd, hfs, hfiles⟩ :=
      ih (l.add s.number .stdout) fun k hk => h k (List.mem_cons_of_mem _ hk)
    refine ⟨l', l.nextId :: ids, ?_, hfs, hfiles.trans ?_⟩
    · rw [addAll.eq_2]
      simp [openSink, hadd, Except.map]
    · simp [logFiles, add, Handler.logFile?]

theorem addAll_of_one_file {l l' : Logger} {hs : List (LogSink × Severity)} {ids : List Nat}
    {path : String} {maxSize : Int} {roller : Roller}
    (hone : (hs.map (·.1)).filter (·.target = .file) = [.file path maxSize roller])
    (h : l.addAll hs = (l', .ok ids)) :
    ∃ s o, (.file path maxSize roller, s) ∈ hs ∧
      LogFile.open? l.fs (l.openingTime (hs.map (·.1))) path = (l'.fs, .ok o) ∧
      l'.logFiles = l.logFiles ++ [(s.number, ⟨path, maxSize, roller, some o,
        fun n => l.clock (l.fileNumber (hs.map (·.1))) (n + 1)⟩)] := by
  induction hs generalizing l ids with
  | nil => simp at hone
  | cons k hs ih =>
    obtain ⟨sink, s⟩ := k
    obtain ⟨m, opened, more, hopen, hrest, -⟩ := addAll_cons_ok h
    cases sink with
    | stdout =>
      obtain ⟨rfl, rfl⟩ : l = m ∧ HandlerSink.stdout = opened := by simpa [openSink] using hopen
      obtain ⟨s', o, hs', ho, hfiles⟩ := ih (by simpa [LogSink.target] using hone) hrest
      rw [openingTime, ← fileNumber_stdout] at ho
      rw [← fileNumber_stdout] at hfiles
      exact ⟨s', o, List.mem_cons_of_mem _ hs', ho,
        hfiles.trans (by simp [logFiles, add, Handler.logFile?])⟩
    | file path' maxSize' roller' =>
      obtain ⟨⟨rfl, rfl, rfl⟩, hno⟩ :
          (path' = path ∧ maxSize' = maxSize ∧ roller' = roller) ∧
            (hs.map (·.1)).filter (·.target = .file) = [] := by
        simpa [LogSink.target] using hone
      -- the sinks after the file are no files, and cannot fail
      obtain ⟨l₁, ids₁, hadd, hfs, hfiles⟩ := (m.add s.number opened).addAll_of_no_files fun k hk => by
        have := List.filter_eq_nil_iff.1 hno k.1 (List.mem_map_of_mem hk)
        simpa using this
      obtain rfl : l₁ = l' := congrArg Prod.fst (hadd.symm.trans hrest)
      have hnumber : l.fileNumber (LogSink.file path' maxSize' roller' :: hs.map (·.1)) = l.nextId :=
        l.fileNumber_file ..
      simp only [openSink] at hopen
      simp only [List.map_cons, openingTime, hnumber]
      cases hop : LogFile.open? l.fs (l.clock l.nextId 0).time path' with
      | mk fs r =>
        cases r with
        | error e => simp [hop, Except.map] at hopen
        | ok o =>
          obtain ⟨rfl, rfl⟩ : { l with fs := fs } = m ∧ HandlerSink.file
              ⟨path', maxSize', roller', some o, fun n => l.clock l.nextId (n + 1)⟩ = opened := by
            simpa [hop, Except.map] using hopen
          refine ⟨s, o, List.mem_cons_self, by rw [hfs]; rfl, hfiles.trans ?_⟩
          simp [logFiles, add, Handler.logFile?]

/-- Adding handlers for sinks with one log file among them changes what opening the log file
changes, whether it opens or not. -/
theorem fs_addAll_of_one_file (l : Logger) {hs : List (LogSink × Severity)} {path : String}
    {maxSize : Int} {roller : Roller}
    (hone : (hs.map (·.1)).filter (·.target = .file) = [.file path maxSize roller]) :
    (l.addAll hs).1.fs = (LogFile.open? l.fs (l.openingTime (hs.map (·.1))) path).1 := by
  induction hs generalizing l with
  | nil => simp at hone
  | cons k hs ih =>
    obtain ⟨sink, s⟩ := k
    rw [addAll.eq_2]
    cases sink with
    | stdout =>
      rw [List.map_cons, openingTime, fileNumber_stdout l _ s.number]
      exact ih (l.add s.number .stdout) (by simpa [LogSink.target] using hone)
    | file path' maxSize' roller' =>
      obtain ⟨⟨rfl, rfl, rfl⟩, hno⟩ :
          (path' = path ∧ maxSize' = maxSize ∧ roller' = roller) ∧
            (hs.map (·.1)).filter (·.target = .file) = [] := by
        simpa [LogSink.target] using hone
      have hnumber : l.fileNumber (LogSink.file path' maxSize' roller' :: hs.map (·.1)) = l.nextId :=
        l.fileNumber_file ..
      simp only [openSink, List.map_cons, openingTime, hnumber]
      cases hopen : LogFile.open? l.fs (l.clock l.nextId 0).time path' with
      | mk fs opened =>
        cases opened with
        | error e => rfl
        | ok o =>
          -- the sinks after it are no files
          obtain ⟨l₁, ids, hadd, hfs, -⟩ := addAll_of_no_files
            (add { l with fs := fs } s.number
              (.file ⟨path', maxSize', roller', some o, fun n => l.clock l.nextId (n + 1)⟩))
            fun k hk => by simpa using List.filter_eq_nil_iff.1 hno k.1 (List.mem_map_of_mem hk)
          simp only [Except.map, hadd, hfs]
          rfl

theorem logFiles_removeAll (l : Logger) : l.removeAll.logFiles = [] := rfl

theorem length_configure {l l' : Logger} {hs : List (LogSink × Severity)} {ids : List Nat}
    (h : l.configure hs = (l', .ok ids)) : l'.handlers.length = hs.length := by
  obtain ⟨hids, -, hl⟩ := configure_ok h
  have hlen := congrArg List.length hl
  simpa [identities, hids] using hlen

end Logger

namespace LogConfig

/-- An installation that has added a handler for every sink has added them at the first try. -/
theorem install_full {c : LogConfig} {l l' : Logger} {h : LogHandle}
    (hi : c.install l = (l', .ok h)) (hfull : l'.handlers.length = c.handlers.length) :
    ∃ ids, l.configure c.handlers = (l', .ok ids) := by
  unfold install at hi
  split at hi
  · rename_i m ids hm
    obtain ⟨rfl, -⟩ := by simpa using hi
    exact ⟨ids, hm⟩
  · rename_i m r hm
    simp only at hi
    split at hi
    · simp at hi
    · rename_i m' ids hm'
      simp only [Prod.mk.injEq, Except.ok.injEq] at hi
      obtain ⟨rfl, -⟩ := hi
      -- the second try is without the file: with a handler for every sink there is no file at all, and
      -- the first try could not fail
      have hlen : m'.handlers.length = c.handlers.length := by
        rw [← hfull, ← List.length_map Handler.identity]
        exact (congrArg List.length (Logger.identities_emit m' _)).symm.trans (List.length_map _)
      rw [Logger.length_configure hm'] at hlen
      have hno : ∀ k ∈ c.handlers, k.1.target ≠ .file := by
        simp only [handlers, without] at hlen ⊢
        cases hsev : c.level.severity? with
        | none => simp
        | some s =>
          simp only [hsev, List.length_map] at hlen
          have hall := List.length_filter_eq_length_iff.1 hlen
          intro k hk
          obtain ⟨sink, hsink, rfl⟩ := List.mem_map.1 hk
          simpa using hall sink hsink
      obtain ⟨l₁, ids₁, hadd, -⟩ := l.removeAll.addAll_of_no_files hno
      have hcontra : l.configure c.handlers = (l₁, .ok ids₁) := hadd
      simp [hm] at hcontra
  · simp at hi

end LogConfig

theorem LogHandle.logFiles_shutdown (h : LogHandle) (l : Logger) :
    (h.shutdown l).2.logFiles.Sublist l.logFiles := by
  unfold Logger.logFiles
  rw [Logger.handlers_shutdown]
  exact List.filter_sublist.filterMap _

theorem LogHandle.fs_shutdown (h : LogHandle) (l : Logger) : (h.shutdown l).2.fs = l.fs := by
  suffices ∀ ids : List Nat, (ids.foldl Logger.remove l).fs = l.fs from this h.handlerIds
  intro ids
  induction ids generalizing l with
  | nil => rfl
  | cons id ids ih => exact ih (l.remove id)

end ProfilerBootstrap
