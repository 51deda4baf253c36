import ProfilerBootstrap.Proofs.LogDirectory
import ProfilerBootstrap.Proofs.Logging.Install
import ProfilerBootstrap.Proofs.Logging.Site

namespace ProfilerBootstrap

open FileSystem

def LogConfig.Request.outlets (r : Request) : List LogSink :=
  if r.targets.contains .stdout then [.stdout] else []

theorem LogConfig.Request.target_outlets (r : Request) {k : LogSink} (h : k ∈ r.outlets) :
    k.target ≠ .file := by
  unfold outlets at h
  split at h
  · obtain rfl := List.mem_singleton.1 h
    simp [LogSink.target]
  · simp at h

theorem LogConfig.Request.filter_outlets_append (r : Request) (path : String) (maxSize : Int)
    (roller : Roller) : (r.outlets ++ [LogSink.file path maxSize roller]).filter (·.target = .file) =
      [.file path maxSize roller] := by
  have hno : r.outlets.filter (·.target = .file) = [] := by
    rw [List.filter_eq_nil_iff]
    intro k hk
    simpa using r.target_outlets hk
  rw [List.filter_append, hno]
  rfl

namespace Logger

def afterBuild (l : Logger) (built : FileSystem × Logged (Except LogConfig.Error LogConfig)) :
    Logger :=
  { l with fs := built.1 }.emitAll built.2.records

section
variable (l : Logger) (built : FileSystem × Logged (Except LogConfig.Error LogConfig))

theorem openingTime_afterBuild (sinks : List LogSink) :
    (l.afterBuild built).openingTime sinks = l.openingTime sinks := by
  rw [openingTime, openingTime, fileNumber, fileNumber, afterBuild, clock_emitAll, nextId_emitAll]

/-- Once a configuration was built, what the name of the log file stands for cannot be opened
because of a null character. -/
def RefusesNull (cs : List Char) : Prop :=
  (LogFile.openAt (l.afterBuild built).fs (LogFile.absolute (l.afterBuild built).fs cs)).2 =
    .error (.files .nullCharacter)

theorem null_of_refusesNull {cs : List Char} (hhere : ∀ n ∈ (l.afterBuild built).fs.here, '\x00' ∉ n)
    (h : l.RefusesNull built cs) : '\x00' ∈ cs := by
  refine Decidable.byContradiction fun hcs => ?_
  obtain ⟨r, hr⟩ := LogFile.refused_of_openAt (LogFile.hasNull_absolute hhere hcs) h
  cases hr

end

end Logger

/-- The moment at which the log file that is asked for is opened by its name. -/
def LogConfig.Request.openingTime (r : Request) (l : Logger) : FileName.Time :=
  (l.clock (l.nextId + r.outlets.length) 0).time

theorem LogConfig.Request.openingTime_outlets (r : Request) (l : Logger) (path : String)
    (maxSize : Int) (roller : Roller) :
    l.openingTime (r.outlets ++ [.file path maxSize roller]) = r.openingTime l := by
  have hplace : (r.outlets ++ [LogSink.file path maxSize roller]).findIdx (·.target = .file) =
      r.outlets.length := by
    unfold outlets
    split <;> simp [List.findIdx_cons, LogSink.target]
  rw [Logger.openingTime, Logger.fileNumber, hplace, openingTime]

namespace LogConfig

def logPath? (env : Environment) (fs : FileSystem) (p : Platform) (r : Request) : Option String :=
  match (LogDirectory.resolve env fs p r.system).2.value with
  | .ok ⟨dir, true⟩ => some (LogSink.filePaths dir r.process r.pid).1.text
  | _ => none

variable {env : Environment} {fs : FileSystem} {p : Platform} {r : Request}

/-- What becomes of the log file that is asked for. It is left out where there is no directory for
it and where it is refused; it cannot even be tried where the path has a null character. -/
theorem fileSinks_cases (env : Environment) (fs : FileSystem) (p : Platform)
    (hpolicy : r.policy = .usual) :
    (fileSinks env fs p r).1.here = fs.here ∧
    ((∃ e, (LogDirectory.resolve env fs p r.system).2.value = .error e ∧
        (fileSinks env fs p r).2.value = .error (.files e)) ∨
      (∃ found, (LogDirectory.resolve env fs p r.system).2.value = .ok found ∧
        logPath? env fs p r = none ∧ (fileSinks env fs p r).2.value = .ok []) ∨
      ∃ path, logPath? env fs p r = some path ∧
        (hasNull path = true ∧ (fileSinks env fs p r).2.value = .error (.files .nullCharacter) ∨
          (∃ why, (LogDirectory.resolve env fs p r.system).1.openAppend path = .error (.refused why) ∧
            (fileSinks env fs p r).2.value = .ok []) ∨
          ∃ opened maxSize roller,
            (LogDirectory.resolve env fs p r.system).1.openAppend path = .ok opened ∧
            (fileSinks env fs p r).2.value = .ok [.file path maxSize roller])) := by
  have hhere := (LogDirectory.settles_resolve env fs p r.system).here
  have hnormal := @LogDirectory.normal_of_resolve env fs p r.system
  unfold logPath? fileSinks
  generalize LogDirectory.resolve env fs p r.system = found at hhere hnormal ⊢
  obtain ⟨fs', value, records⟩ := found
  cases value with
  | error e => exact ⟨hhere, .inl ⟨e, rfl, rfl⟩⟩
  | ok resolution =>
    obtain ⟨dir, valid⟩ := resolution
    cases valid with
    | false => exact ⟨hhere, .inr (.inl ⟨_, rfl, rfl, rfl⟩)⟩
    | true =>
      -- the usual policy has a roller for any path, so that a sink is always to be had
      obtain ⟨roller, hsink, -⟩ := LogSite.exists_ofProcess (hnormal rfl) r.process r.pid
        (by decide : 0 ≤ RollingPolicy.usual.windowSize)
      rw [← hpolicy] at hsink
      generalize hpath : (LogSink.filePaths dir r.process r.pid).1.text = path at hsink
      simp only [hpath, hsink, LogSink.probe]
      cases hopen : fs'.openAppend path with
      | ok opened =>
        obtain ⟨fs'', id⟩ := opened
        refine ⟨(here_openAppend hopen).trans hhere, .inr (.inr ⟨path, rfl, ?_⟩)⟩
        exact .inr (.inr ⟨_, _, roller, hopen, rfl⟩)
      | error e =>
        cases e with
        | refused why =>
          exact ⟨hhere, .inr (.inr ⟨path, rfl, .inr (.inl ⟨why, hopen, rfl⟩)⟩)⟩
        | nullCharacter =>
          have hnull := openAppend_eq_null.1 hopen
          exact ⟨hhere, .inr (.inr ⟨path, rfl, .inl ⟨hnull, rfl⟩⟩)⟩

/-- What keeps logging from being set up: a null character in the path of the directory or of the
log file, or a log file that opens under its path while the path, read as a name with fields, is
malformed or stands for one with a null character. -/
inductive Obstacle (env : Environment) (l : Logger) (p : Platform) (r : Request) : LoggingError → Prop
  | directory (e : FileSystem.Error)
    (h : (LogDirectory.resolve env l.fs p r.system).2.value = .error e) :
    Obstacle env l p r (.config (.files e))
  | nullCharacter (path : String) (hpath : logPath? env l.fs p r = some path)
    (hnull : hasNull path = true) : Obstacle env l p r (.config (.files .nullCharacter))
  | name (path : String) (f : FileName.Fault) (hpath : logPath? env l.fs p r = some path)
    (hopen : ∃ opened, (LogDirectory.resolve env l.fs p r.system).1.openAppend path = .ok opened)
    (hname : FileName.expand (r.openingTime l) path.toList = .error f) :
    Obstacle env l p r (.file (.name f))
  | nullInName (path : String) (cs : List Char) (hpath : logPath? env l.fs p r = some path)
    (hopen : ∃ opened, (LogDirectory.resolve env l.fs p r.system).1.openAppend path = .ok opened)
    (hname : FileName.expand (r.openingTime l) path.toList = .ok cs)
    (hnull : l.RefusesNull (build env l.fs p r) cs) :
    Obstacle env l p r (.file (.files .nullCharacter))

theorem exists_of_logPath? {path : String} (h : logPath? env fs p r = some path) :
    ∃ dir, (LogDirectory.resolve env fs p r.system).2.value = .ok ⟨dir, true⟩ ∧
      path = (LogSink.filePaths dir r.process r.pid).1.text := by
  unfold logPath? at h
  split at h
  · rename_i dir hdir
    exact ⟨dir, hdir, (Option.some.inj h).symm⟩
  · simp at h

theorem logPath?_of_error {e : FileSystem.Error}
    (h : (LogDirectory.resolve env fs p r.system).2.value = .error e) :
    logPath? env fs p r = none := by
  unfold logPath?
  generalize LogDirectory.resolve env fs p r.system = found at h ⊢
  rw [h]

section
variable {e : LoggingError} {l : Logger}

theorem obstacle_iff_of_error {e' : FileSystem.Error}
    (h : (LogDirectory.resolve env l.fs p r.system).2.value = .error e') :
    Obstacle env l p r e ↔ e = .config (.files e') := by
  have hnone := logPath?_of_error h
  constructor
  · intro hobstacle
    cases hobstacle with
    | directory e'' h' => rw [Except.error.inj (h.symm.trans h')]
    | nullCharacter path hpath hnull => exact absurd (hnone.symm.trans hpath) nofun
    | name path f hpath hopen hname => exact absurd (hnone.symm.trans hpath) nofun
    | nullInName path cs hpath hopen hname hnull => exact absurd (hnone.symm.trans hpath) nofun
  · rintro rfl
    exact .directory e' h

theorem not_obstacle_of_no_path {found : LogDirectory.Resolution}
    (h : (LogDirectory.resolve env l.fs p r.system).2.value = .ok found)
    (hnone : logPath? env l.fs p r = none) : ¬ Obstacle env l p r e := by
  intro hobstacle
  cases hobstacle with
  | directory e' h' => exact absurd (h.symm.trans h') nofun
  | nullCharacter path hpath hnull => exact absurd (hnone.symm.trans hpath) nofun
  | name path f hpath hopen hname => exact absurd (hnone.symm.trans hpath) nofun
  | nullInName path cs hpath hopen hname hnull => exact absurd (hnone.symm.trans hpath) nofun

def NameFault (env : Environment) (l : Logger) (p : Platform) (r : Request) (path : String)
    (e : LoggingError) : Prop :=
  (∃ f, FileName.expand (r.openingTime l) path.toList = .error f ∧ e = .file (.name f)) ∨
    ∃ cs, FileName.expand (r.openingTime l) path.toList = .ok cs ∧
      l.RefusesNull (build env l.fs p r) cs ∧ e = .file (.files .nullCharacter)

theorem obstacle_iff_of_path {path : String} (hpath : logPath? env l.fs p r = some path) :
    Obstacle env l p r e ↔
      hasNull path = true ∧ e = .config (.files .nullCharacter) ∨
        (∃ opened, (LogDirectory.resolve env l.fs p r.system).1.openAppend path = .ok opened) ∧
          NameFault env l p r path e := by
  constructor
  · intro hobstacle
    cases hobstacle with
    | directory e' h' => exact absurd ((logPath?_of_error h').symm.trans hpath) nofun
    | nullCharacter path' hpath' hnull =>
      obtain rfl := Option.some.inj (hpath.symm.trans hpath')
      exact .inl ⟨hnull, rfl⟩
    | name path' f hpath' hopen hname =>
      obtain rfl := Option.some.inj (hpath.symm.trans hpath')
      exact .inr ⟨hopen, .inl ⟨f, hname, rfl⟩⟩
    | nullInName path' cs hpath' hopen hname hnull =>
      obtain rfl := Option.some.inj (hpath.symm.trans hpath')
      exact .inr ⟨hopen, .inr ⟨cs, hname, hnull, rfl⟩⟩
  · rintro (⟨hnull, rfl⟩ | ⟨hopen, ⟨f, hname, rfl⟩ | ⟨cs, hname, hnull, rfl⟩⟩)
    · exact .nullCharacter path hpath hnull
    · exact .name path f hpath hopen hname
    · exact .nullInName path cs hpath hopen hname hnull

theorem obstacle_iff_of_null {path : String} (hpath : logPath? env l.fs p r = some path)
    (hnull : hasNull path = true) :
    Obstacle env l p r e ↔ e = .config (.files .nullCharacter) := by
  rw [obstacle_iff_of_path hpath]
  constructor
  · rintro (⟨-, he⟩ | ⟨⟨opened, hopen⟩, -⟩)
    · exact he
    · exact absurd (openAppend_eq_null.2 hnull ▸ hopen) nofun
  · exact fun he => .inl ⟨hnull, he⟩

theorem not_obstacle_of_refused {path : String} {why : Refusal}
    (hpath : logPath? env l.fs p r = some path)
    (hopen : (LogDirectory.resolve env l.fs p r.system).1.openAppend path = .error (.refused why)) :
    ¬ Obstacle env l p r e := by
  rw [obstacle_iff_of_path hpath]
  rintro (⟨hnull, -⟩ | ⟨⟨opened, hopen'⟩, -⟩)
  · simp [hasNull_of_openAppend hopen (by simp)] at hnull
  · exact absurd (hopen.symm.trans hopen') nofun

theorem obstacle_iff_of_opened {path : String} {opened : FileSystem × FileId}
    (hpath : logPath? env l.fs p r = some path)
    (hopen : (LogDirectory.resolve env l.fs p r.system).1.openAppend path = .ok opened) :
    Obstacle env l p r e ↔ NameFault env l p r path e := by
  rw [obstacle_iff_of_path hpath]
  constructor
  · rintro (⟨hnull, -⟩ | ⟨-, hname⟩)
    · simp [hasNull_of_openAppend hopen (by simp)] at hnull
    · exact hname
  · exact fun hname => .inr ⟨⟨opened, hopen⟩, hname⟩

end

/-- A text without null characters and without braces. -/
structure Ordinary (cs : List Char) : Prop where
  noNull : '\x00' ∉ cs
  noOpen : FileName.openBrace ∉ cs
  noClose : FileName.closeBrace ∉ cs

theorem ordinary_filePaths {dir : Path} {process : String} (hdir : Ordinary dir.chars)
    (hprocess : Ordinary process.toList) (pid : Int) :
    Ordinary (LogSink.filePaths dir process pid).1.chars where
  noNull h := (LogSite.mem_of_filePaths h (.inl rfl)).elim hdir.noNull hprocess.noNull
  noOpen h := (LogSite.mem_of_filePaths h (.inr (.inl rfl))).elim hdir.noOpen hprocess.noOpen
  noClose h := (LogSite.mem_of_filePaths h (.inr (.inr rfl))).elim hdir.noClose hprocess.noClose

theorem here_build (env : Environment) (fs : FileSystem) (p : Platform) (r : Request)
    (hpolicy : r.policy = .usual) : (build env fs p r).1.here = fs.here := by
  have hfiles := (fileSinks_cases env fs p hpolicy).1
  unfold build
  generalize fileSinks env fs p r = files at hfiles ⊢
  split
  · rfl
  · simp only
    split
    · rfl
    · exact hfiles

/-- With ordinary directories and an ordinary name of the process there is no obstacle. -/
theorem not_obstacle_of_ordinary {l : Logger} (hpolicy : r.policy = .usual)
    (hhere : ∀ n ∈ l.fs.here, '\x00' ∉ n)
    (hwanted : Ordinary (LogDirectory.wanted env p r.system).chars)
    (hdefault : Ordinary (LogDirectory.byDefault env p r.system).chars)
    (hprocess : Ordinary r.process.toList) (e : LoggingError) : ¬ Obstacle env l p r e := by
  have hsettles := LogDirectory.settles_resolve env l.fs p r.system
  have hpath : ∀ path, logPath? env l.fs p r = some path → Ordinary path.toList := by
    intro path hpath
    obtain ⟨dir, hdir, rfl⟩ := exists_of_logPath? hpath
    rw [Path.toList_text]
    -- the log file lies in one of the two directories
    refine ordinary_filePaths ?_ hprocess r.pid
    obtain h | h : dir = _ ∨ dir = _ := hsettles.path _ hdir
    · rw [h]
      exact hwanted
    · rw [h]
      exact hdefault
  have hexpand : ∀ path, logPath? env l.fs p r = some path →
      FileName.expand (r.openingTime l) path.toList = .ok path.toList := fun path h =>
    FileName.expand_of_no_braces _ (hpath path h).noOpen (hpath path h).noClose
  have hnull : ∀ q : Path, Ordinary q.chars → ¬ hasNull q.text = true := by
    intro q hq hnull
    rw [hasNull, Path.toList_text, List.contains_iff_mem] at hnull
    exact hq.noNull hnull
  intro hobstacle
  cases hobstacle with
  | directory e h =>
    rcases (hsettles.null e h).2 with h | h
    · exact hnull _ hwanted h
    · exact hnull _ hdefault h
  | nullCharacter path h hn =>
    rw [hasNull, List.contains_iff_mem] at hn
    exact (hpath path h).noNull hn
  | name path f h hopen hname => simp [hexpand path h] at hname
  | nullInName path cs h hopen hname hn =>
    obtain rfl := Except.ok.inj ((hexpand path h).symm.trans hname)
    have hbuilt := here_build env l.fs p r hpolicy
    generalize build env l.fs p r = built at hn hbuilt
    refine (hpath path h).noNull (l.null_of_refusesNull built ?_ hn)
    rwa [Logger.afterBuild, Logger.here_emitAll, hbuilt]

end LogConfig

end ProfilerBootstrap
