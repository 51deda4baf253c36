import ProfilerBootstrap.Dotenv.Expand
import ProfilerBootstrap.Variables
import ProfilerBootstrap.FileSystem.Operation
import ProfilerBootstrap.Text.Decoding

namespace ProfilerBootstrap.Dotenv

inductive LoadError
  | noHome
  /-- No user can have a name with a null in it. -/
  | nullInName
  | files (e : FileSystem.Error)
  | undecodable (f : Decoding.Fault)
  | variable_ (e : VariableError)
  deriving DecidableEq, Repr

def LoadError.message : LoadError → String
  | noHome => "Could not determine home directory."
  | nullInName => "embedded null byte"
  | files e => e.message
  | undecodable f => f.message .utf8
  | variable_ e => e.message

/-- The home that a first name with a tilde stands for; a tilde alone means the home that the
environment tells, before that of the user. -/
def homeOf (m : Platform) (env : Environment) (n : Name) : Option String :=
  if n = ['~'] then (env.get? "HOME").or (m.home? none)
  else m.home? (some (String.ofList n.tail))

def trimEnd (directory : String) : String :=
  let text := String.ofList (Text.dropEnd (· = '/') directory.toList)
  if text = "" then "/" else text

def expandHome (m : Platform) (env : Environment) (p : Path) : Except LoadError Path :=
  match p.slashes, p.names with
  | 0, n :: rest =>
    if n.head? ≠ some '~' then .ok p
    else if '\x00' ∈ n then .error .nullInName
    else match homeOf m env n with
      | none => .error .noHome
      | some h =>
        -- a home that begins with a tilde itself is not looked up once more
        if h.toList.head? = some '~' then .error .noHome
        else
          let home := Path.ofText (trimEnd h)
          .ok ⟨home.slashes, home.names ++ rest⟩
  | _, _ => .ok p

/-- The variable by which files are not loaded, and the words that say so. -/
def disabling : String := "PYTHON_DOTENV_DISABLED"

def affirmations : List String := ["1", "true", "t", "yes", "y"]

def isDisabled (env : Environment) : Bool :=
  match env.get? disabling with
  | some v => affirmations.contains (foldCase v)
  | none => false

/-- What loading comes to: the environment afterwards, the lines that could not be read, and
whether there was a file to load. -/
structure Outcome where
  env : Environment
  badLines : List Nat
  result : Except LoadError Bool

/-- Sets the variables that are not set, in order, up to one that cannot be. -/
def setAll : Environment → Values → Environment × Option VariableError
  | env, [] => (env, none)
  | env, (k, some v) :: rest =>
    if env.contains k then setAll env rest
    else match env.set k v with
      | .ok env => setAll env rest
      | .error e => (env, some e)
  | env, (_, none) :: rest => setAll env rest

def setFromBytes (env : Environment) (bytes : List UInt8) : Outcome :=
  match Decoding.decode .utf8 bytes with
  | .error f => ⟨env, [], .error (.undecodable f)⟩
  | .ok cs =>
    let found := read cs
    match setAll env (values env found.entries) with
    | (env, none) => ⟨env, found.badLines, .ok true⟩
    | (env, some e) => ⟨env, found.badLines, .error (.variable_ e)⟩

def loadPath (env : Environment) (fs : FileSystem) (p : Path) : Logged Outcome :=
  match fs.status p.text with
  | .error e => return ⟨env, [], .error (.files e)⟩
  | .ok (some (.file id)) => do
    let outcome :=
      if isDisabled env then ⟨env, [], .ok true⟩ else setFromBytes env (fs.read id).toList
    if outcome.result.toOption.isSome then
      Logged.write .debug s!"Loaded env from: {p.text}"
    return outcome
  | .ok _ => do
    Logged.warning s!"Env file not found: {p.text}"
    return ⟨env, [], .ok false⟩

def load (m : Platform) (env : Environment) (fs : FileSystem) (path : String) : Logged Outcome :=
  match expandHome m env (.ofText path) with
  | .error e => return ⟨env, [], .error e⟩
  | .ok p => loadPath env fs p

end ProfilerBootstrap.Dotenv
