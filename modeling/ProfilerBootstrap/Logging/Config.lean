import ProfilerBootstrap.LogDirectory
import ProfilerBootstrap.Logging.LogFile

namespace ProfilerBootstrap

inductive LogSink
  | stdout
  | file (path : String) (maxSize : Int) (roller : Roller)

namespace LogSink

def target : LogSink → LogTarget
  | stdout => .stdout
  | file .. => .file

/-- The path of the log file of a process, and the pattern for its backups. -/
def filePaths (dir : Path) (process : String) (pid : Int) : Path × String :=
  let stem := s!"elastic_apm_profiler_{process}_{pid}"
  (dir.join (stem ++ ".log"), (dir.join (stem ++ "_\x7b\x7d.log")).text)

def ofProcess (dir : Path) (process : String) (pid : Int) (policy : RollingPolicy) :
    Except RollerError LogSink := do
  let (path, pattern) := filePaths dir process pid
  return .file path.text policy.maxSize (← Roller.ofPolicy pattern policy)

/-- Tries whether a sink can be opened, which makes its file. -/
def probe (fs : FileSystem) : LogSink → FileSystem × Logged (Except FileSystem.Error Bool)
  | stdout => (fs, return .ok true)
  | file path _ _ =>
    match fs.openAppend path with
    | .ok (fs, _) => (fs, return .ok true)
    | .error (.refused r) =>
      (fs, do
        Logged.warning s!"Cannot open log file {path}: {r.message}. File logging is disabled."
        return .ok false)
    | .error .nullCharacter => (fs, return .error .nullCharacter)

end LogSink

structure LogConfig where
  level : Level
  sinks : List LogSink

namespace LogConfig

def targets (c : LogConfig) : List LogTarget :=
  LogTarget.all.filter fun t => c.sinks.any (·.target = t)

def logFile (c : LogConfig) : Option Path :=
  c.sinks.findSome? fun
    | .file path .. => some (.ofText path)
    | .stdout => none

def handlers (c : LogConfig) : List (LogSink × Severity) :=
  match c.level.severity? with
  | none => []
  | some s => c.sinks.map (·, s)

def without (c : LogConfig) (t : LogTarget) : LogConfig :=
  { c with sinks := c.sinks.filter (·.target ≠ t) }

inductive Error
  | files (e : FileSystem.Error)
  | roller (e : RollerError)
  deriving DecidableEq, Repr

def Error.message : Error → String
  | .files e => e.message
  | .roller e => e.message

/-- What a configuration is asked for. -/
structure Request where
  process : String
  targets : List LogTarget
  level : Level
  pid : Int
  system : Option String
  policy : RollingPolicy

/-- The sink for the log file of a process, where there is a directory for it and it opens. -/
def fileSinks (env : Environment) (fs : FileSystem) (p : Platform) (r : Request) :
    FileSystem × Logged (Except Error (List LogSink)) :=
  match LogDirectory.resolve env fs p r.system with
  | (fs, ⟨.error e, records⟩) => (fs, ⟨.error (.files e), records⟩)
  | (fs, ⟨.ok resolution, records⟩) =>
    if !resolution.isValid then (fs, ⟨.ok [], records⟩)
    else match LogSink.ofProcess resolution.path r.process r.pid r.policy with
      | .error e => (fs, ⟨.error (.roller e), records⟩)
      | .ok sink =>
        match sink.probe fs with
        | (fs, probed) =>
          (fs, ⟨match probed.value with
            | .error e => .error (.files e)
            | .ok usable => .ok (if usable then [sink] else []), records ++ probed.records⟩)

/-- A configuration with a sink for every target that can be used. -/
def build (env : Environment) (fs : FileSystem) (p : Platform) (r : Request) :
    FileSystem × Logged (Except Error LogConfig) :=
  if r.level = .off then (fs, return .ok ⟨.off, []⟩)
  else
    let stdout := if r.targets.contains .stdout then [LogSink.stdout] else []
    if !r.targets.contains .file then (fs, return .ok ⟨r.level, stdout⟩)
    else
      let (fs, files) := fileSinks env fs p r
      (fs, ⟨files.value.map fun found => ⟨r.level, stdout ++ found⟩, files.records⟩)

end LogConfig

end ProfilerBootstrap
