import ProfilerBootstrap.FileSystem.Operation
import ProfilerBootstrap.Variables

namespace ProfilerBootstrap.LogDirectory

def programData (env : Environment) : Option Path :=
  (env.get? Variables.programData).map fun d =>
    (((Path.ofText d).join "elastic").join "apm-agent-dotnet").join "logs"

def besideProfiler (env : Environment) (p : Platform) : Path :=
  (Path.ofText (env.profilerDirectory p)).join "logs"

def byDefault (env : Environment) (p : Platform) (system : Option String) : Path :=
  if !p.isWindows system then .ofText p.unixLogDirectory
  else firstResolved [programData env] (besideProfiler env p)

/-- Where logs are to go; an empty text asks for nothing. -/
def wanted (env : Environment) (p : Platform) (system : Option String) : Path :=
  match env.get? Variables.logDirectory with
  | some d => if d = "" then byDefault env p system else .ofText d
  | none => byDefault env p system

/-- A directory, and whether log files can lie in it. -/
structure Resolution where
  path : Path
  isValid : Bool
  deriving DecidableEq, Repr

/-- Makes a directory with its parents. That this is refused is told in a record; a path with a null
character is an error. -/
def create (fs : FileSystem) (path : Path) :
    FileSystem × Logged (Except FileSystem.Error Bool) :=
  match fs.makePath path with
  | (fs, none) => (fs, return .ok true)
  | (fs, some (.refused r)) =>
    (fs, do
      Logged.info s!"Could not create log directory {path.text}: {r.message}"
      return .ok false)
  | (fs, some .nullCharacter) => (fs, return .error .nullCharacter)

/-- The directory to begin with: what is there and no directory cannot be used. -/
def candidate (fs : FileSystem) (wanted default : Path) : Logged Path :=
  if fs.exists? wanted.text && !fs.isDir wanted.text then do
    Logged.info s!"Log directory {wanted.text} is not a directory, using {default.text}"
    return default
  else return wanted

/-- Makes sure of a directory; if the first one cannot be made, of the default one. -/
def ensure (fs : FileSystem) (first default : Path) :
    FileSystem × Logged (Except FileSystem.Error Resolution) :=
  if fs.isDir first.text then (fs, return .ok ⟨first, true⟩)
  else
    let (fs, made) := create fs first
    match made.value with
    | .error e => (fs, ⟨.error e, made.records⟩)
    | .ok true => (fs, ⟨.ok ⟨first, true⟩, made.records⟩)
    | .ok false =>
      if first = default then (fs, ⟨.ok ⟨first, false⟩, made.records⟩)
      else
        let (fs, second) := create fs default
        (fs, do
          discard made
          Logged.info s!"Falling back to default log directory {default.text}"
          return (← second).map (⟨default, ·⟩))

/-- The directory that log files go to. It is made if it is missing. -/
def resolve (env : Environment) (fs : FileSystem) (p : Platform) (system : Option String) :
    FileSystem × Logged (Except FileSystem.Error Resolution) :=
  let default := byDefault env p system
  let first := candidate fs (wanted env p system) default
  let (fs, r) := ensure fs first.value default
  (fs, do discard first; r)

end ProfilerBootstrap.LogDirectory
