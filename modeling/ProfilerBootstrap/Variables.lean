import ProfilerBootstrap.Environment
import ProfilerBootstrap.Logging.Record

namespace ProfilerBootstrap

inductive LogTarget
  | file
  | stdout
  deriving DecidableEq, Repr

def LogTarget.name : LogTarget → String
  | file => "file"
  | stdout => "stdout"

def LogTarget.all : List LogTarget := [file, stdout]

def LogTarget.ofName? (s : String) : Option LogTarget := all.find? (·.name = s)

namespace Variables

def integrations : String := "ELASTIC_APM_PROFILER_INTEGRATIONS"
def logTargets : String := "ELASTIC_APM_PROFILER_LOG_TARGETS"
def logLevel : String := "ELASTIC_APM_PROFILER_LOG"
def logDirectory : String := "ELASTIC_APM_PROFILER_LOG_DIR"
def logIl : String := "ELASTIC_APM_PROFILER_LOG_IL"
def callTarget : String := "ELASTIC_APM_PROFILER_CALLTARGET_ENABLED"
def inlining : String := "ELASTIC_APM_PROFILER_ENABLE_INLINING"
def noOptimizations : String := "ELASTIC_APM_PROFILER_DISABLE_OPTIMIZATIONS"
def programData : String := "PROGRAMDATA"

def ownBeginnings : List String := ["ELASTIC_", "CORECLR_", "COR_"]

end Variables

def boolText (b : Bool) : String := if b then "True" else "False"

def parseBool? (s : String) : Option Bool :=
  let text := lowerCase s
  if text = "true" ∨ text = "1" then some true
  else if text = "false" ∨ text = "0" then some false
  else none

namespace Environment

def readBool (env : Environment) (name : String) (default : Bool) : Logged Bool :=
  match env.get? name with
  | none => do
    Logged.info <| s!"Problem reading {name}: environment variable not found. " ++
      s!"Setting to {boolText default}"
    return default
  | some raw =>
    match parseBool? raw with
    | some b => return b
    | none => do
      Logged.info s!"Unknown value for {name}: {raw}. Setting to {boolText default}"
      return default

/-- A level; a missing one is not worth a record. -/
def readLevel (env : Environment) (name : String) (default : Level) : Logged Level :=
  match env.get? name with
  | none => return default
  | some raw =>
    match Level.parse? raw with
    | some l => return l
    | none => do
      Logged.info s!"Unknown value for {name}: {raw}. Setting to {default.name}"
      return default

def logLevel (env : Environment) (default : Level) : Logged Level :=
  env.readLevel Variables.logLevel default

def segments (s : String) : List String := (s.toList.splitOn ';').map String.ofList

/-- The targets named between semicolons, in upper or lower case; the file where none is. -/
def logTargets (env : Environment) : List LogTarget :=
  let named := segments ((env.get? Variables.logTargets).getD "")
  let found := LogTarget.all.filter fun t => named.any fun s => lowerCase s = t.name
  if found.isEmpty then [.file] else found

def enableInlining (env : Environment) (default : Bool) : Logged Bool :=
  env.readBool Variables.inlining default

def disableOptimizations (env : Environment) : Logged Bool :=
  env.readBool Variables.noOptimizations false

def integrationsPath (env : Environment) : Option String := env.get? Variables.integrations

def isOwn (name : String) : Bool :=
  Variables.ownBeginnings.any fun b => b.toList.isPrefixOf name.toList

/-- A line for each variable that concerns the profiler, by name. -/
def listing (env : Environment) : String :=
  String.intercalate "\n" <|
    (env.bindings.filter (isOwn ·.1)).map fun v => s!"  {v.1}=\"{v.2}\""

end Environment

/-- What the program runs on: the name of the system, the bits of a pointer, the directory for logs
where the system has no other, and the homes of its users. -/
structure Platform where
  system : String
  pointerWidth : String
  unixLogDirectory : String
  /-- The home of the user with a name; without one, of the user that runs the program. -/
  home? : Option String → Option String

namespace Platform

/-- The name of the system to go by; an empty one means the running system. -/
def systemName (p : Platform) : Option String → String
  | none => p.system
  | some s => if s = "" then p.system else s

def isWindows (p : Platform) (system : Option String) : Bool :=
  lowerCase (p.systemName system) = "windows"

end Platform

def firstResolved (values : List (Option α)) (fallback : α) : α :=
  (values.findSome? id).getD fallback

namespace Environment

def widePath (p : Platform) : String := s!"CORECLR_PROFILER_PATH_{p.pointerWidth}"

/-- The variables that say where the profiler is, in the order in which they are asked. -/
def profilerVariables (p : Platform) : List String :=
  [widePath p, "CORECLR_PROFILER_PATH", s!"COR_PROFILER_PATH_{p.pointerWidth}",
    "COR_PROFILER_PATH"]

def profilerDirectory (env : Environment) (p : Platform) : String :=
  firstResolved ((profilerVariables p).map env.get?) ""

/-- The library of the profiler: on Windows a bare name. -/
def nativeProfilerFile (env : Environment) (p : Platform) (system : Option String) :
    Logged (Option String) :=
  if p.isWindows system then return some "elastic_apm_profiler.dll"
  else match [widePath p, "CORECLR_PROFILER_PATH"].findSome? env.get? with
    | some path => return some path
    | none => do
      Logged.warning
        "problem getting env var CORECLR_PROFILER_PATH: environment variable not found"
      return none

end Environment

/-- The code by which a host learns of a failure. -/
def failureCode : Int := -2147467259

end ProfilerBootstrap
