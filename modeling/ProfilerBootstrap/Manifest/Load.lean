import ProfilerBootstrap.FileSystem.Operation
import ProfilerBootstrap.Manifest.Check
import ProfilerBootstrap.Variables
import ProfilerBootstrap.Yaml.Document

namespace ProfilerBootstrap.Manifest

inductive FileProblem
  | refused (r : FileSystem.Refusal)
  | document (e : Yaml.Error)
  | shape (m : Model) (issues : List Issue)

def FileProblem.message (path : String) : FileProblem → String
  | refused r => r.message
  | document e => e.message path
  | shape m issues => headline m.name issues

inductive LoadError
  | notNamed
  | file (path : String) (p : FileProblem)

def LoadError.message : LoadError → String
  | notNamed =>
    s!"Problem reading {Variables.integrations} environment variable: " ++
      "environment variable not found"
  | file path p => s!"Problem reading integrations file {path}: {p.message path}"

/-- The path that an error is about, which is empty where no path is known. -/
def LoadError.path : LoadError → String
  | notNamed => ""
  | file path _ => path

def LoadError.code (_ : LoadError) : Int := failureCode

/-- A failure to load: one that disables the profiler, or one that the caller gets as it is. -/
inductive Failure
  | disabled (e : LoadError)
  | nullCharacter
  | unusable (u : Yaml.Unusable)

def disable (e : LoadError) : Logged (Except Failure Records) := do
  Logged.warning s!"{e.message}. profiler is disabled."
  return .error (.disabled e)

def ofBytes (m : Model) (path : String) (bytes : List UInt8) : Logged (Except Failure Records) :=
  match Yaml.Document.read bytes with
  | .error (.unusable u) => return .error (.unusable u)
  | .error e => disable (.file path (.document e))
  | .ok d =>
    match check m d with
    | .sound records => return .ok records
    | .faulty issues => disable (.file path (.shape m issues))

/-- Loads the manifest at a path. -/
def load (fs : FileSystem) (m : Model) (path : String) : Logged (Except Failure Records) :=
  match fs.bytesAt path with
  | .error .nullCharacter => return .error .nullCharacter
  | .error (.refused r) => disable (.file path (.refused r))
  | .ok bytes => ofBytes m path bytes.toList

def loadNamed (env : Environment) (fs : FileSystem) (m : Model) :
    Logged (Except Failure Records) :=
  match env.integrationsPath with
  | none => disable .notNamed
  | some path => load fs m path

end ProfilerBootstrap.Manifest
