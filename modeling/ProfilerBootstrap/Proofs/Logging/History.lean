import ProfilerBootstrap.Proofs.Logging.Files
import ProfilerBootstrap.Proofs.Logging.Window

namespace ProfilerBootstrap

open FileSystem LogSite

namespace LogHistory

section
variable (h : LogHistory) (initial : ByteArray) (line : String)

theorem length_contents : (h.contents initial).length = h.rolled.length + 1 := by
  simp [contents]

theorem contents_roll : (h.roll line).contents initial = h.contents initial ++ [line.toUTF8] := by
  obtain ⟨rolled, current⟩ := h
  cases rolled with
  | nil => simp [contents, roll]
  | cons first rest => simp [contents, roll]

theorem contents_add {front : List ByteArray} {last : ByteArray}
    (hc : h.contents initial = front ++ [last]) :
    (h.add line).contents initial = front ++ [last ++ line.toUTF8] := by
  obtain ⟨rolled, current⟩ := h
  cases rolled with
  | nil =>
    obtain ⟨rfl, rfl⟩ : front = [] ∧ initial ++ (String.join current).toUTF8 = last := by
      have hlen := congrArg List.length hc
      obtain rfl : front = [] := by simpa [contents] using hlen
      simpa [contents] using hc
    simp [contents, add, ByteArray.append_assoc]
  | cons first rest =>
    have hc' : ((initial ++ (String.join first).toUTF8) ::
        rest.map fun lines => (String.join lines).toUTF8) ++ [(String.join current).toUTF8] =
          front ++ [last] := by
      rw [← hc]
      simp [contents]
    obtain ⟨rfl, hlast⟩ := List.append_inj' hc' rfl
    obtain rfl := (List.cons.inj hlast).1
    simp [contents, add]

theorem lines_roll : (h.roll line).lines = h.lines ++ [line] := by
  simp [lines, roll]

theorem lines_add : (h.add line).lines = h.lines ++ [line] := by
  simp [lines, add]

def joined (files : List ByteArray) : ByteArray := files.foldr (· ++ ·) .empty

theorem joined_append (files more : List ByteArray) :
    joined (files ++ more) = joined files ++ joined more := by
  induction files with
  | nil => exact ByteArray.empty_append.symm
  | cons f files ih =>
    have hcons : joined (f :: (files ++ more)) = f ++ joined (files ++ more) := rfl
    rw [List.cons_append, hcons, ih, ← ByteArray.append_assoc]
    rfl

theorem joined_map_join (files : List (List String)) :
    joined (files.map fun lines => (String.join lines).toUTF8) =
      (String.join files.flatten).toUTF8 := by
  induction files with
  | nil => rfl
  | cons lines files ih =>
    have hcons : joined ((String.join lines).toUTF8 ::
        files.map fun lines => (String.join lines).toUTF8) =
      (String.join lines).toUTF8 ++ (String.join files.flatten).toUTF8 := by rw [← ih]; rfl
    rw [List.map_cons, hcons]
    simp [String.join_append]

/-- The files of a history hold what was there before and all lines, in order. -/
theorem joined_contents : joined (h.contents initial) = initial ++ (String.join h.lines).toUTF8 := by
  obtain ⟨rolled, current⟩ := h
  have hlines := joined_map_join (rolled ++ [current])
  have hflat : (rolled ++ [current]).flatten = lines ⟨rolled, current⟩ := by simp [lines]
  rw [hflat] at hlines
  rw [← hlines, contents]
  cases rolled with
  | nil => exact ByteArray.append_assoc
  | cons first rest => exact ByteArray.append_assoc

end

end LogHistory

/-- A log file and its backups lie at a site. -/
structure LogSite.Holds (w : LogSite) (path : String) (roller : Roller) : Prop where
  literal : w.Literal
  path : path = (w.path []).text
  names : roller.Names w.slashes w.dirs fun i => w.name (number i)

/-- A directory in which a log file can begin: there are no backups, and no directory and no link
where the log file is to be. -/
structure LogSite.Fresh (w : LogSite) (count : Nat) (d : Location) (fs : FileSystem) : Prop where
  sound : fs.Sound
  lead : fs.Leads w.dir d
  plain : Fits w.slashes w.dirs (w.name []) → fs.NoDirOrLink (d ++ [w.name []])
  free : ∀ i, i < count → Fits w.slashes w.dirs (w.name (number i)) →
    fs.find? (d ++ [w.name (number i)]) = none

/-- Whether a step has to do with no other log file than the one at a path: of the sinks that it
installs, none or one is a file, and that is this one. -/
def Host.Step.KeepsTo (path : String) (maxSize : Int) (roller : Roller) : Host.Step → Prop
  | .install c => (c.sinks.filter (·.target = .file)).Sublist [.file path maxSize roller]
  | .initialise .. => False
  | .shutdown _ | .flush _ | .log .. => True

theorem sublist_singleton {l : List α} {a : α} (h : l.Sublist [a]) : l = [] ∨ l = [a] := by
  obtain hnil | ⟨rest, rfl, hrest⟩ := List.sublist_cons_iff.1 h
  · exact .inl (List.sublist_nil.1 hnil)
  · exact .inr (by rw [List.sublist_nil.1 hrest])

namespace Host

/-- What holds between steps. Either the log file was not opened yet and nothing has changed, or its
window holds the history, and no handler has another log file. -/
inductive Tracks (w : LogSite) (d : Location) (path : String) (maxSize : Int) (roller : Roller)
    (first : FileSystem) (s : Host) (h : LogHistory) : Prop
  | unopened (fs : s.logger.fs = first) (files : s.logger.logFiles = []) (history : h = ⟨[], []⟩)
  | opened (olds : List FileId) (cur : FileId)
    (window : Window w roller.count d first s.logger.fs olds cur)
    (files : s.logger.logFiles = [] ∨ ∃ t clock, s.logger.logFiles =
      [(t, ⟨path, maxSize, roller, some ⟨(w.absolute first.here).path [], cur⟩, clock⟩)])
    (history : h.contents (first.contentAt path) = Window.texts s.logger.fs olds cur)

section
variable {w : LogSite} {d : Location} {path : String} {maxSize : Int} {roller : Roller}
  {first : FileSystem} {s t : Host} {h : LogHistory}

theorem Tracks.of_same (hi : Tracks w d path maxSize roller first s h)
    (hfs : t.logger.fs = s.logger.fs) (hfiles : t.logger.logFiles.Sublist s.logger.logFiles) :
    Tracks w d path maxSize roller first t h := by
  cases hi with
  | unopened hsame hno hh =>
    rw [hno] at hfiles
    exact .unopened (hfs.trans hsame) (List.sublist_nil.1 hfiles) hh
  | opened olds cur hwin hone hh =>
    refine .opened olds cur (hfs ▸ hwin) ?_ (hfs ▸ hh)
    obtain hno | ⟨k, clock, hk⟩ := hone
    · rw [hno] at hfiles
      exact .inl (List.sublist_nil.1 hfiles)
    · rw [hk] at hfiles
      rcases sublist_singleton hfiles with hno | hone
      · exact .inl hno
      · exact .inr ⟨k, clock, hone⟩

/-- Opening the log file takes up the window where it was left. -/
theorem Tracks.open_ok (hw : w.Holds path roller) (hfresh : w.Fresh roller.count d first)
    (hi : Tracks w d path maxSize roller first s h) {fs : FileSystem} {o : OpenFile}
    {now : FileName.Time} (hopen : LogFile.open? s.logger.fs now path = (fs, .ok o)) :
    ∃ olds, o.path = (w.absolute first.here).path [] ∧
      Window w roller.count d first fs olds o.id ∧
      h.contents (first.contentAt path) = Window.texts fs olds o.id := by
  -- a literal path opens at the place of the site, wherever one is
  have hat : ∀ fs₀ : FileSystem, fs₀.Sound → LogFile.open? fs₀ now path = (fs, .ok o) →
      LogFile.openAt fs₀ ((w.absolute fs₀.here).path []) = (fs, .ok o) := by
    intro fs₀ hs hopen
    rwa [LogFile.open?, hw.path, hw.literal.path_eq hs.rooted] at hopen
  cases hi with
  | unopened hsame hno hh =>
    rw [hsame] at hopen
    obtain ⟨hpath, hwin, hread⟩ := Window.start hw.literal hfresh.sound hfresh.lead hfresh.plain
      hfresh.free (hat first hfresh.sound hopen)
    have hcontent : first.contentAt path = fs.read o.id := by
      rw [hread, hw.path]
      exact contentAt_snoc (hw.literal.valid.normal List.not_mem_nil) (w.name_noUp []) hwin.fits
        hfresh.lead (hfresh.plain hwin.fits)
    refine ⟨[], hpath, hwin, ?_⟩
    rw [hh, hcontent]
    simp [LogHistory.contents, Window.texts]
  | opened olds cur hwin hone hh =>
    obtain ⟨hfs, ho⟩ := hwin.openAt_ok hw.literal (hat _ hwin.sound hopen)
    subst ho
    rw [hwin.here, hfs]
    exact ⟨olds, rfl, hwin, hh⟩

theorem Tracks.install (hw : w.Holds path roller) (hfresh : w.Fresh roller.count d first)
    (hi : Tracks w d path maxSize roller first s h) {c : LogConfig} {l : Logger} {k : LogHandle}
    (hc : (c.sinks.filter (·.target = .file)).Sublist [.file path maxSize roller])
    (hinst : c.install s.logger = (l, .ok k)) (hfull : l.handlers.length = c.handlers.length) :
    Tracks w d path maxSize roller first ⟨l, s.handles ++ [k]⟩ h := by
  obtain ⟨ids, hconf⟩ := LogConfig.install_full hinst hfull
  have hconf : s.logger.removeAll.addAll c.handlers = (l, .ok ids) := hconf
  have hsinks : c.handlers.map (·.1) = [] ∨ c.handlers.map (·.1) = c.sinks := by
    unfold LogConfig.handlers
    cases c.level.severity? with
    | none => exact .inl rfl
    | some s =>
      refine .inr ?_
      rw [List.map_map]
      exact List.map_id c.sinks
  have hfilter : (c.handlers.map (·.1)).filter (·.target = .file) = [] ∨
      (c.handlers.map (·.1)).filter (·.target = .file) = [.file path maxSize roller] := by
    rcases hsinks with hnil | hall
    · exact .inl (by rw [hnil]; rfl)
    · rw [hall]
      exact sublist_singleton hc
  rcases hfilter with hno | hone
  · -- no file among the sinks: the open file, if any, is closed and stays what it is
    have hstdout : ∀ k ∈ c.handlers, k.1.target ≠ .file := by
      intro k hk
      have := List.filter_eq_nil_iff.1 hno k.1 (List.mem_map_of_mem hk)
      simpa using this
    obtain ⟨l₁, ids₁, hadd, hfs, hfiles⟩ := s.logger.removeAll.addAll_of_no_files hstdout
    obtain rfl : l₁ = l := congrArg Prod.fst (hadd.symm.trans hconf)
    refine hi.of_same hfs ?_
    rw [hfiles, Logger.logFiles_removeAll]
    exact List.nil_sublist _
  · obtain ⟨k, o, -, hopen, hfiles⟩ := Logger.addAll_of_one_file hone hconf
    obtain ⟨olds, hpath, hwin, hh⟩ := hi.open_ok hw hfresh hopen
    rw [Logger.logFiles_removeAll, List.nil_append] at hfiles
    obtain ⟨p, id⟩ := o
    obtain rfl : p = (w.absolute first.here).path [] := hpath
    exact .opened olds id hwin (.inr ⟨k.number, _, hfiles⟩) hh

theorem taker?_of_no_files {r : LogRecord} (hno : s.logger.logFiles = []) : s.taker? r = none := by
  rw [taker?, hno]
  rfl

theorem taker?_of_one_file {r : LogRecord} {k : Nat} {f : LogFile}
    (hone : s.logger.logFiles = [(k, f)]) :
    s.taker? r = if r.severity.number < k then none else some f := by
  rw [taker?, hone]
  split <;> simp_all

theorem Tracks.log (hw : w.Holds path roller) (hi : Tracks w d path maxSize roller first s h)
    {now : String} {r : LogRecord}
    (hopen : (s.log now r).logger.logFiles.all (·.2.file.isSome) = true) :
    Tracks w d path maxSize roller first (s.log now r) (s.noted h (.log now r)) := by
  have hsame : s.logger.logFiles = [] →
      Tracks w d path maxSize roller first (s.log now r) (s.noted h (.log now r)) := by
    intro hno
    obtain ⟨hfs, hfiles⟩ := Logger.handleAll_of_no_files { s.logger with now := now } r hno
    have hnoted : s.noted h (.log now r) = h := by rw [noted, taker?_of_no_files hno]
    have hfiles : (s.log now r).logger.logFiles = [] := hfiles
    rw [hnoted]
    refine hi.of_same hfs ?_
    rw [hfiles]
    exact List.nil_sublist _
  cases hi with
  | unopened hfs hno hh => exact hsame hno
  | opened olds cur hwin hone hh =>
    obtain hno | ⟨k, clock, hone⟩ := hone
    · exact hsame hno
    · rw [← hwin.here] at hone
      obtain ⟨hfs, hfiles⟩ := Logger.handleAll_of_one_file { s.logger with now := now } r hone
      have hfs : (s.log now r).logger.fs = (Logger.written s.logger.fs k _ r (r.line now)).1 := hfs
      have hfiles : (s.log now r).logger.logFiles =
          [(k, (Logger.written s.logger.fs k _ r (r.line now)).2)] := hfiles
      rw [noted, taker?_of_one_file hone]
      by_cases hlow : r.severity.number < k
      · -- the handler passes over a record of so low a severity, and so does the history
        rw [Logger.written, if_pos hlow] at hfs hfiles
        rw [if_pos hlow]
        rw [hwin.here] at hfiles
        exact .opened olds cur (hfs ▸ hwin) (.inr ⟨k, clock, hfiles⟩) (hfs ▸ hh)
      · rw [Logger.written, if_neg hlow] at hfs hfiles
        rw [hfiles] at hopen
        obtain ⟨olds', cur', hfile, hwin', htexts⟩ := hwin.write_ok hw.literal hw.path rfl hw.names
          rfl (by simpa using hopen)
        rw [if_neg hlow]
        rw [hfile, LogFile.next, hwin.here] at hfiles
        refine .opened olds' cur' (hfs ▸ hwin') (.inr ⟨k, _, hfiles⟩) ?_
        rw [hfs, htexts]
        dsimp only
        split
        · rw [LogHistory.contents_roll, hh]
        · exact LogHistory.contents_add h _ _ hh

theorem Tracks.step (hw : w.Holds path roller) (hfresh : w.Fresh roller.count d first)
    (hi : Tracks w d path maxSize roller first s h) {st : Step}
    (hst : st.KeepsTo path maxSize roller) (hstep : s.step st = .ok t)
    (hsmooth : isSmooth st t = true) : Tracks w d path maxSize roller first t (s.noted h st) := by
  cases st with
  | install c =>
    simp only [Host.step, keep] at hstep
    cases hinst : c.install s.logger with
    | mk l r =>
      cases r with
      | error e => simp [hinst, Except.map] at hstep
      | ok k =>
        obtain rfl : _ = t := by simpa [hinst, Except.map] using hstep
        have hfull : l.handlers.length = c.handlers.length := by
          have := (Bool.and_eq_true_iff.1 hsmooth).2
          simpa using this
        exact hi.install hw hfresh hst hinst hfull
  | initialise env p process pid system => exact hst.elim
  | shutdown n =>
    obtain rfl := Except.ok.inj hstep
    cases hn : s.handles[n]? with
    | none =>
      rw [show s.shutdown n = s by simp [Host.shutdown, hn]]
      exact hi
    | some k =>
      have hlogger : (s.shutdown n).logger = (k.shutdown s.logger).2 := by simp [Host.shutdown, hn]
      refine hi.of_same ?_ ?_
      · rw [hlogger, LogHandle.fs_shutdown]
      · rw [hlogger]
        exact LogHandle.logFiles_shutdown k s.logger
  | flush n =>
    obtain rfl := Except.ok.inj hstep
    exact hi
  | log now r =>
    obtain rfl := Except.ok.inj hstep
    exact hi.log hw (Bool.and_eq_true_iff.1 hsmooth).1

theorem smoothRun_cons {s s' : Host} {h h' : LogHistory} {st : Step} {rest : List Step}
    (hrun : s.smoothRun h (st :: rest) = some (s', h')) :
    ∃ t, s.step st = .ok t ∧ isSmooth st t = true ∧
      t.smoothRun (s.noted h st) rest = some (s', h') := by
  rw [smoothRun] at hrun
  cases hst : s.step st with
  | error e => simp [hst] at hrun
  | ok t =>
    simp only [hst] at hrun
    split at hrun
    · rename_i hsmooth
      exact ⟨t, rfl, hsmooth, hrun⟩
    · simp at hrun

theorem Tracks.run (hw : w.Holds path roller) (hfresh : w.Fresh roller.count d first) {s' : Host}
    {h' : LogHistory} {steps : List Step} (hi : Tracks w d path maxSize roller first s h)
    (hsteps : ∀ st ∈ steps, st.KeepsTo path maxSize roller)
    (hrun : s.smoothRun h steps = some (s', h')) : Tracks w d path maxSize roller first s' h' := by
  induction steps generalizing s h with
  | nil =>
    obtain ⟨rfl, rfl⟩ := Prod.mk.inj (Option.some.inj hrun)
    exact hi
  | cons st rest ih =>
    obtain ⟨t, hst, hsmooth, hrest⟩ := smoothRun_cons hrun
    exact ih (hi.step hw hfresh (hsteps st List.mem_cons_self) hst hsmooth)
      (fun st hst => hsteps st (List.mem_cons_of_mem _ hst)) hrest

theorem lines_noted (s : Host) (h : LogHistory) (st : Step) :
    (s.noted h st).lines = h.lines ++ s.linesOf st := by
  cases st with
  | log now r =>
    rw [noted, linesOf]
    cases s.taker? r with
    | none => simp
    | some f =>
      dsimp only
      split
      · exact h.lines_roll _
      · exact h.lines_add _
  | install c => exact (List.append_nil _).symm
  | initialise env p process pid system => exact (List.append_nil _).symm
  | shutdown n => exact (List.append_nil _).symm
  | flush n => exact (List.append_nil _).symm

/-- The history of a run has the lines that the run writes. -/
theorem lines_smoothRun {s' : Host} {h' : LogHistory} {steps : List Step}
    (hrun : s.smoothRun h steps = some (s', h')) : h'.lines = h.lines ++ s.linesOfRun steps := by
  induction steps generalizing s h with
  | nil =>
    obtain ⟨rfl, rfl⟩ := Prod.mk.inj (Option.some.inj hrun)
    exact (List.append_nil _).symm
  | cons st rest ih =>
    obtain ⟨t, hst, -, hrest⟩ := smoothRun_cons hrun
    rw [ih hrest, lines_noted, linesOfRun, hst, List.append_assoc]

end

end Host

end ProfilerBootstrap
