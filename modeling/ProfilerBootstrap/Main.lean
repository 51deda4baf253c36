import ProfilerBootstrap.CommandLine.Run

namespace ProfilerBootstrap.Program

open CommandLine

def hostOf (home? : Option String → Option String) : Platform :=
  ⟨"Linux", "64", "/var/log/elastic/apm-agent-dotnet", home?⟩

/-- The home of a user in the lines of a database of users, by its name or by its number. -/
def homeIn (database : List String) (number : String) (name : Option String) : Option String := do
  let users := database.map fun line => (line.toList.splitOn ':').map String.ofList
  let user ← users.find? fun fields =>
    match name with
    | some name => fields[0]? = some name
    | none => fields[2]? = some number
  user[5]?

/-- A screen as wide as the environment says, on which the arguments of events are not read. -/
def screen (env : Environment) : Screen :=
  let columns := ((env.get? "COLUMNS").bind fun s =>
    if s ≠ "" ∧ s.all Char.isDigit then s.toNat? else none).getD 80
  ⟨columns, if columns = 0 then 80 else columns, fun _ => none⟩

def variableOf? (bytes : List UInt8) : Option (String × String) := do
  let text ← String.fromUTF8? ⟨bytes.toArray⟩
  let name := text.toList.takeWhile (· ≠ '=')
  return (String.ofList name, String.ofList (text.toList.drop (name.length + 1)))

def environment : IO Environment := do
  let block ← IO.FS.readBinFile "/proc/self/environ"
  return .ofList (((block.toList.splitOn 0).filter (· ≠ [])).filterMap variableOf?)

def linesOf (path : String) : IO (List String) := do
  try
    return (← IO.FS.lines path).toList
  catch _ => return []

def host : IO Platform := do
  let heading := "Uid:\t"
  let number := ((← linesOf "/proc/self/status").find? (·.startsWith heading)).map fun line =>
    String.ofList ((line.toList.drop heading.length).takeWhile Char.isDigit)
  return hostOf (homeIn (← linesOf "/etc/passwd") (number.getD ""))

/-- Copies a directory without its entries, or a file. -/
def copyEntry (fs : FileSystem) (p : Path) : IO FileSystem := do
  if fs.exists? p.text then return fs
  try
    let bytes ← IO.FS.readBinFile p.text
    return (fs.writeFile p.text bytes).toOption.getD fs
  catch
    | .inappropriateType .. => return (fs.makePath p).1
    | _ => return fs

def copyPath (fs : FileSystem) (p : Path) : IO FileSystem :=
  (List.range p.names.length).foldlM (fun fs n => copyEntry fs ⟨p.slashes, p.names.take (n + 1)⟩) fs

def pathsOf (m : Platform) (env : Environment) : Task → List Path
  | .overview | .listing => []
  | .settings => [LogDirectory.wanted env m none, LogDirectory.byDefault env m none]
  | .integrations path => (path.toList ++ env.integrationsPath.toList).map Path.ofText

/-- What a request looks at, in a file system of its own. -/
def surroundings (m : Platform) (env : Environment) (here : Location) (r : Request) :
    IO FileSystem := do
  let fs := FileSystem.fresh here
  match r.envFile with
  | none => (pathsOf m env r.task).foldlM copyPath fs
  | some file =>
    let p := (Dotenv.expandHome m env (.ofText file)).toOption.getD (.ofText file)
    let fs ← copyPath fs p
    (pathsOf m (Dotenv.load m env fs file).value.env r.task).foldlM copyPath fs

/-- Makes the directories of one file system that are not in another. -/
def makeNew (old new : FileSystem) : IO Unit :=
  new.entries.reverse.forM fun (l, e) => do
    if e = .dir ∧ old.find? l = none then
      IO.FS.createDirAll (Path.text ⟨1, l⟩)

def run (args : List String) : IO UInt32 := do
  let env ← environment
  let m ← host
  let here := (Path.ofText (toString (← IO.currentDir))).names
  let fs ← match Request.ofTexts args with
    | .ok r => surroundings m env here r
    | .error _ => pure (FileSystem.fresh here)
  let logger : Logger := ⟨fs, [], 0, "", [], "", "", fun _ _ => default⟩
  let session : Session := ⟨env, m, .initial, logger, screen⟩
  let (session, r) := session.run args
  makeNew fs session.logger.fs
  IO.print session.logger.stdout
  IO.eprint session.logger.stderr
  match r with
  | .ok e => return e.code.toUInt32
  | .error e => IO.eprintln e.message; return 1

end ProfilerBootstrap.Program

def main (args : List String) : IO UInt32 := ProfilerBootstrap.Program.run args
