import ProfilerBootstrap.Logging.Config

namespace ProfilerBootstrap

inductive HandlerSink
  /-- Keeps the records as they are. -/
  | capture
  | stdout
  /-- For messages of the command line. -/
  | stderr
  | file (f : LogFile)

structure Handler where
  id : Nat
  threshold : Nat
  sink : HandlerSink

/-- The file system and everything that records are written to. -/
structure Logger where
  fs : FileSystem
  handlers : List Handler
  nextId : Nat
  /-- The time as log lines show it. -/
  now : String
  captured : List LogRecord
  stdout : String
  stderr : String
  /-- The moments at which the log file of each handler is opened, by the number of the handler. -/
  clock : Nat → Nat → Moment

def padRight (width : Nat) (s : String) : String :=
  s ++ String.ofList (List.replicate (width - s.length) ' ')

def LogRecord.line (now : String) (r : LogRecord) : String :=
  s!"[{now}] [{padRight 5 (Severity.shortName r.severity.name)}] {r.message}\n"

/-- A record as a line for the user of the command line. -/
def LogRecord.notice (r : LogRecord) : String :=
  s!"{padRight 7 r.severity.name} | {r.message}\n"

namespace Logger

def handle (l : Logger) (h : Handler) (r : LogRecord) : Logger × Handler :=
  if r.severity.number < h.threshold then (l, h)
  else match h.sink with
    | .capture => ({ l with captured := l.captured ++ [r] }, h)
    | .stdout => ({ l with stdout := l.stdout ++ r.line l.now }, h)
    | .stderr => ({ l with stderr := l.stderr ++ r.notice }, h)
    | .file f =>
      let (fs, f) := f.write l.fs (r.line l.now)
      ({ l with fs := fs }, { h with sink := .file f })

/-- Writes a record to the handlers in order, and gives them as they are afterwards. -/
def handleAll (l : Logger) (r : LogRecord) : List Handler → Logger × List Handler
  | [] => (l, [])
  | h :: hs =>
    let (l, h) := l.handle h r
    let (l, hs) := handleAll l r hs
    (l, h :: hs)

def emit (l : Logger) (r : LogRecord) : Logger :=
  let (l', hs) := l.handleAll r l.handlers
  { l' with handlers := hs }

def emitAll (l : Logger) (rs : List LogRecord) : Logger := rs.foldl emit l

def removeAll (l : Logger) : Logger := { l with handlers := [] }

def remove (l : Logger) (id : Nat) : Logger :=
  { l with handlers := l.handlers.filter (·.id ≠ id) }

def add (l : Logger) (threshold : Nat) (sink : HandlerSink) : Logger :=
  { l with handlers := l.handlers ++ [⟨l.nextId, threshold, sink⟩], nextId := l.nextId + 1 }

def openSink (l : Logger) : LogSink → Logger × Except LogFileError HandlerSink
  | .stdout => (l, .ok .stdout)
  | .file path maxSize roller =>
    let clock := l.clock l.nextId
    let (fs, opened) := LogFile.open? l.fs (clock 0).time path
    ({ l with fs := fs },
      opened.map fun f => .file ⟨path, maxSize, roller, some f, fun n => clock (n + 1)⟩)

/-- Adds handlers in order, up to the first that cannot be added, and gives their numbers. -/
def addAll (l : Logger) : List (LogSink × Severity) → Logger × Except LogFileError (List Nat)
  | [] => (l, .ok [])
  | (sink, s) :: rest =>
    match l.openSink sink with
    | (l, .error e) => ({ l with nextId := l.nextId + 1 }, .error e)
    | (l, .ok opened) =>
      let id := l.nextId
      let (l, ids) := addAll (l.add s.number opened) rest
      (l, ids.map (id :: ·))

def configure (l : Logger) (hs : List (LogSink × Severity)) :
    Logger × Except LogFileError (List Nat) :=
  l.removeAll.addAll hs

end Logger

/-- What a host keeps of the installed logging. -/
structure LogHandle where
  level : Level
  activeTargets : List LogTarget
  logFile : Option Path
  handlerIds : List Nat

namespace LogHandle

def isLogging (h : LogHandle) : Bool := h.level ≠ .off && !h.activeTargets.isEmpty

def ofConfig (c : LogConfig) (ids : List Nat) : LogHandle :=
  if c.handlers.isEmpty then ⟨c.level, [], none, ids⟩ else ⟨c.level, c.targets, c.logFile, ids⟩

/-- Removes the handlers that were installed with a handle, those that are still there. -/
def shutdown (h : LogHandle) (l : Logger) : LogHandle × Logger :=
  ({ h with activeTargets := [], handlerIds := [] }, h.handlerIds.foldl Logger.remove l)

end LogHandle

namespace LogConfig

/-- Replaces all handlers by those of a configuration. Where the log file cannot be opened, only the
other targets are installed, and a record tells why. -/
def install (c : LogConfig) (l : Logger) : Logger × Except LogFileError LogHandle :=
  match l.configure c.handlers with
  | (l, .ok ids) => (l, .ok (.ofConfig c ids))
  | (l, .error (.files (.refused r))) =>
    let c := c.without .file
    match l.configure c.handlers with
    | (l, .error e) => (l, .error e)
    | (l, .ok ids) =>
      let problem := s!"Problem creating file logger: {r.message}. File logging is disabled."
      (l.emit ⟨.warning, problem⟩, .ok (.ofConfig c ids))
  | (l, .error e) => (l, .error e)

end LogConfig

inductive LoggingError
  | config (e : LogConfig.Error)
  | file (e : LogFileError)
  deriving DecidableEq, Repr

def LoggingError.message : LoggingError → String
  | .config e => e.message
  | .file e => e.message

namespace Logger

/-- Sets logging up as the environment says. -/
def initialise (l : Logger) (env : Environment) (p : Platform) (process : String) (pid : Int)
    (system : Option String) : Logger × Except LoggingError LogHandle :=
  let level := env.logLevel .warn
  let l := l.emitAll level.records
  let request : LogConfig.Request := ⟨process, env.logTargets, level.value, pid, system, .usual⟩
  let (fs, config) := LogConfig.build env l.fs p request
  let l := { l with fs := fs }.emitAll config.records
  match config.value with
  | .error e => (l, .error (.config e))
  | .ok c =>
    match c.install l with
    | (l, .ok h) => (l, .ok h)
    | (l, .error e) => (l, .error (.file e))

end Logger

end ProfilerBootstrap
