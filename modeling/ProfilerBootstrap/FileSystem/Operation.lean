import ProfilerBootstrap.FileSystem.Walk
import ProfilerBootstrap.Text.Blank

namespace ProfilerBootstrap.FileSystem

def refuse (c : Cause) (path : String) : Except Error α := .error (.refused ⟨c, path, none⟩)

/-- A file system after some steps, and the error that stopped them, if one did. -/
abbrev Outcome := FileSystem × Option Error

def Outcome.andThen (done : Outcome) (next : FileSystem → Outcome) : Outcome :=
  match done with
  | (fs, none) => next fs
  | (fs, some e) => (fs, some e)

/-- The outcome of a step that changes nothing where it is refused. -/
def attempt (fs : FileSystem) (done : Except Error FileSystem) : Outcome :=
  match done with
  | .ok fs => (fs, none)
  | .error e => (fs, some e)

theorem Outcome.andThen_ok {done : Outcome} {next : FileSystem → Outcome} {fs : FileSystem}
    (h : done.andThen next = (fs, none)) : ∃ fs₁, done = (fs₁, none) ∧ next fs₁ = (fs, none) := by
  obtain ⟨fs₁, e⟩ := done
  cases e with
  | none => exact ⟨fs₁, rfl, h⟩
  | some e => simp [andThen] at h

theorem attempt_ok {fs fs' : FileSystem} {done : Except Error FileSystem}
    (h : fs.attempt done = (fs', none)) : done = .ok fs' := by
  cases done with
  | ok fs₁ => simpa [attempt] using h
  | error e => simp [attempt] at h

def mkdir (fs : FileSystem) (path : String) : Except Error FileSystem := do
  match ← fs.reach false path with
  | ⟨l, none⟩ => return fs.insert l .dir
  | ⟨_, some _⟩ => refuse .exists path

/-- A refusal to make a directory does not matter where one is. -/
def forgive (fs : FileSystem) (path : String) (e : Error) : Outcome :=
  match e with
  | .refused _ => (fs, if fs.isDir path then none else some e)
  | .nullCharacter => (fs, some e)

def isMissing : Error → Bool
  | .refused r => r.cause = .missing
  | .nullCharacter => false

def makeLast (fs : FileSystem) (path : String) : Outcome :=
  match fs.mkdir path with
  | .ok fs => (fs, none)
  | .error e => if isMissing e then (fs, some e) else fs.forgive path e

/-- Makes a directory, and its parents first where they turn out to be missing. -/
def makePathFrom : Nat → FileSystem → Path → Outcome
  | n, fs, p =>
    match fs.mkdir p.text with
    | .ok fs => (fs, none)
    | .error e =>
      if !isMissing e then fs.forgive p.text e
      else match n with
        | 0 => (fs, some e)
        | n + 1 =>
          match makePathFrom n fs p.parent with
          | (fs, some e) => (fs, some e)
          | (fs, none) => fs.makeLast p.text

/-- A path has as many parents as names. -/
def makePath (fs : FileSystem) (p : Path) : Outcome :=
  makePathFrom p.names.length fs p

/-- Makes the missing directories of a path from the top down. A parent that is there but leads
nowhere is passed over. -/
def makeDirsFrom : Nat → FileSystem → Path → Outcome
  | n, fs, p =>
    let last (fs : FileSystem) : Outcome :=
      match fs.mkdir p.text with
      | .ok fs => (fs, none)
      | .error e => fs.forgive p.text e
    match n with
    | 0 => last fs
    | n + 1 =>
      if p.parent.names = [] ∨ fs.exists? p.parent.text then last fs
      else match makeDirsFrom n fs p.parent with
        | (fs, some (.refused ⟨.exists, _, _⟩)) => last fs
        | (fs, some e) => (fs, some e)
        | (fs, none) => last fs

def makeDirs (fs : FileSystem) (p : Path) : Outcome :=
  makeDirsFrom p.names.length fs p

def openAppend (fs : FileSystem) (path : String) : Except Error (FileSystem × FileId) := do
  match ← fs.reach true path with
  | ⟨l, none⟩ => return fs.create l
  | ⟨_, some (.file id)⟩ => return (fs, id)
  | ⟨_, some _⟩ => refuse .isDirectory path

def bytesAt (fs : FileSystem) (path : String) : Except Error ByteArray := do
  match (← fs.reach true path).entry with
  | none => refuse .missing path
  | some (.file id) => return fs.read id
  | some _ => refuse .isDirectory path

/-- What a file holds; where none can be read there is nothing. -/
def contentAt (fs : FileSystem) (path : String) : ByteArray :=
  match fs.bytesAt path with
  | .ok bytes => bytes
  | .error _ => .empty

def unlink (fs : FileSystem) (path : String) : Except Error FileSystem := do
  match ← fs.reach false path with
  | ⟨_, none⟩ => refuse .missing path
  | ⟨_, some .dir⟩ => refuse .isDirectory path
  | ⟨l, some _⟩ => return fs.erase l

def removeTree (fs : FileSystem) (path : String) : Except Error FileSystem := do
  match ← fs.reach false path with
  | ⟨_, none⟩ => refuse .missing path
  | ⟨l, some _⟩ => return fs.eraseTree l

/-- Why an entry cannot be moved to a place, if it cannot. -/
def moveRefused (fs : FileSystem) (l : Location) (e : Entry) (aim : Place) : Option Cause :=
  if l ≠ aim.location && isWithin l aim.location then some .invalid
  else if l ≠ aim.location && isWithin aim.location l then some .notEmpty
  else match e, aim.entry with
    | _, none => none
    | .dir, some .dir => if fs.isEmptyDir aim.location then none else some .notEmpty
    | .dir, some _ => some .notDirectory
    | _, some .dir => some .isDirectory
    | _, some _ => none

/-- The names of a path before the last one, and the last one; slashes at the end do not matter. -/
def splitLast (path : String) : List Name × Option Name :=
  match (Path.pieces path.toList).reverse.dropWhile (· = []) with
  | [] => ([], none)
  | n :: front => (front.reverse, some n)

/-- Looks for the directory in which the last name of a path stands. -/
def approach (fs : FileSystem) (path : String) : Except Cause Unit :=
  let cs := path.toList
  if cs = [] then .error .missing
  else if pathLimit ≤ byteLength cs then .error .nameTooLong
  else match walkFrom fs true greatestLinks (origin fs.here cs) (splitLast path).1 with
    | .error c => .error c
    | .ok ⟨_, some .dir⟩ => .ok ()
    | .ok ⟨_, none⟩ => .error .missing
    | .ok _ => .error .notDirectory

/-- Whether a path ends in the name of an entry, and not in points or at the root. -/
def endsInName (path : String) : Bool :=
  (splitLast path).2.any fun n => Path.isName n && n ≠ ['.', '.']

def bare (path : String) : String := String.ofList (Text.dropEnd (· = '/') path.toList)

/-- Moves an entry, in place of what is at the other path. Links are not followed at the end. -/
def moveEntry (fs : FileSystem) (path target : String) : Except Cause FileSystem := do
  fs.approach path
  fs.approach target
  if !(endsInName path && endsInName target) then .error .busy
  else
    let source ← fs.walk false (bare path)
    match source.entry with
    | none => .error .missing
    | some e =>
      let aim ← fs.walk false (bare target)
      -- a slash at the end asks for a directory, and not for a link to one
      if (bare path ≠ path ∨ bare target ≠ target) ∧ e ≠ .dir then .error .notDirectory
      else if source.location = aim.location then .ok fs
      else match fs.moveRefused source.location e aim with
        | some c => .error c
        | none => .ok (fs.move source.location aim.location)

def rename (fs : FileSystem) (path target : String) : Except Error FileSystem :=
  if hasNull path || hasNull target then .error .nullCharacter
  else (fs.moveEntry path target).mapError fun c => .refused ⟨c, path, some target⟩

def writeFile (fs : FileSystem) (path : String) (bytes : ByteArray) : Except Error FileSystem := do
  let (fs, id) ← fs.openAppend path
  return fs.overwrite id bytes

def symlink (fs : FileSystem) (path target : String) : Except Error FileSystem := do
  match ← fs.reach false path with
  | ⟨l, none⟩ => return fs.insert l (.link target.toList)
  | ⟨_, some _⟩ => refuse .exists path

def listing (fs : FileSystem) : List (Location × Entry) :=
  fs.entries.filterMap fun e =>
    if isWithin fs.here e.1 && e.1 ≠ fs.here then some (e.1.drop fs.here.length, e.2) else none

/-- A file system with nothing but the place where relative paths begin. -/
def fresh (here : Location) : FileSystem :=
  ⟨(List.range here.length).map fun n => (here.take (n + 1), .dir), #[], here⟩

end ProfilerBootstrap.FileSystem
