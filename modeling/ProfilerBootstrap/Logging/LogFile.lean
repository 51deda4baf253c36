import ProfilerBootstrap.Logging.FileName
import ProfilerBootstrap.Rolling

namespace ProfilerBootstrap

inductive LogFileError
  | name (f : FileName.Fault)
  | files (e : FileSystem.Error)
  deriving DecidableEq, Repr

def LogFileError.message : LogFileError → String
  | .name f => f.message
  | .files e => e.message

/-- An open file, and where it was opened. -/
structure OpenFile where
  path : Path
  id : FileId
  deriving DecidableEq, Repr

/-- A moment in the name of a file that is set aside. -/
structure Stamp where
  text : Name
  plain : ∀ c ∈ text, c.isDigit = true ∨ c = '-' ∨ c = '_'
  deriving DecidableEq

/-- A moment at which a log file is opened: the time as its name sees it, and when the file that is
in its place was made. -/
structure Moment where
  time : FileName.Time
  made : Stamp

def Stamp.epoch : Stamp := ⟨"1970-01-01_00-00-00_000000".toList, by simp⟩

/-- A moment without parts, which is shown alike in every format. -/
instance : Inhabited Moment where
  default := ⟨⟨fun _ => some "no such part", fun _ _ => none, fun _ _ _ => .ok Stamp.epoch.text⟩,
    .epoch⟩

/-- A log file that is rolled when the next line would make it too long. It stays open between
lines; after a failure it is opened anew for the next line. Its name may have fields. -/
structure LogFile where
  name : String
  /-- The size up to which it may grow. -/
  maxSize : Int
  /-- Where it is rolled to. -/
  roller : Roller
  file : Option OpenFile
  /-- The moments at which it is going to be opened. -/
  clock : Nat → Moment

namespace LogFile

/-- The path that a name has from the root, without points. -/
def absolute (fs : FileSystem) (cs : List Char) : Path :=
  let p := Path.ofChars cs
  ⟨max 1 p.slashes, Path.climb ((if p.slashes = 0 then fs.here else []) ++ p.names)⟩

def path (fs : FileSystem) (t : FileName.Time) (name : String) : Except LogFileError Path :=
  match FileName.expand t name.toList with
  | .ok cs => .ok (absolute fs cs)
  | .error f => .error (.name f)

def openAt (fs : FileSystem) (p : Path) : FileSystem × Except LogFileError OpenFile :=
  match fs.makeDirs p.parent with
  | (fs, some e) => (fs, .error (.files e))
  | (fs, none) =>
    match fs.openAppend p.text with
    | .ok (fs, id) => (fs, .ok ⟨p, id⟩)
    | .error e => (fs, .error (.files e))

def open? (fs : FileSystem) (t : FileName.Time) (name : String) :
    FileSystem × Except LogFileError OpenFile :=
  match path fs t name with
  | .ok p => openAt fs p
  | .error e => (fs, .error e)

/-- The ending of a name: its last point, unless only points come before, and what follows. -/
def extension (n : Name) : Name :=
  let points := n.takeWhile (· = '.')
  let rest := (n.drop points.length).reverse
  let last := rest.takeWhile (· ≠ '.')
  if last.length = rest.length then [] else '.' :: last.reverse

/-- The name that a full file has until it is in the window. -/
def setAside (fs : FileSystem) (made : Stamp) : Nat → Nat → Path → Path
  | tries, n, p =>
    let name := p.names.getLastD []
    let ext := extension name
    let count := if n = 1 then [] else ('.' :: (toString n).toList)
    let aside := name.take (name.length - ext.length) ++ '.' :: made.text ++ count ++ ext
    let q : Path := ⟨p.slashes, p.names.dropLast ++ [aside]⟩
    match tries with
    | 0 => q
    | tries + 1 => if fs.exists? q.text then setAside fs made tries (n + 1) p else q

/-- Sets a full file aside if the new one takes its path, and tells where the full one is then. -/
def makeRoom (fs : FileSystem) (made : Stamp) (old new : Path) :
    Except FileSystem.Error (FileSystem × Path) :=
  if new = old then
    let aside := setAside fs made fs.entries.length 1 old
    (fs.rename old.text aside.text).map fun fs => (fs, aside)
  else .ok (fs, old)

/-- Rolls the file at a path and opens a new one, whose path may be another one by now. -/
def rotate (l : LogFile) (fs : FileSystem) (m : Moment) (old : Path) :
    FileSystem × Except LogFileError OpenFile :=
  match path fs m.time l.name with
  | .error e => (fs, .error e)
  | .ok p =>
    match fs.makeDirs p.parent with
    | (fs, some e) => (fs, .error (.files e))
    | (fs, none) =>
      match makeRoom fs m.made old p with
      | .error e => (fs, .error (.files e))
      | .ok (fs, full) =>
        match l.roller.roll fs full.text with
        | (fs, some e) => (fs, .error (.files e))
        | (fs, none) =>
          match fs.openAppend p.text with
          | .ok (fs, id) => (fs, .ok ⟨p, id⟩)
          | .error e => (fs, .error (.files e))

/-- Whether a line would make a file too long. The file counts in bytes, the line in characters. -/
def isFull (l : LogFile) (fs : FileSystem) (f : OpenFile) (line : String) : Bool :=
  l.maxSize < (fs.read f.id).size + line.length

def fileFor (l : LogFile) (fs : FileSystem) (line : String) :
    FileSystem × Except LogFileError OpenFile :=
  let opened : FileSystem × Except LogFileError OpenFile := match l.file with
    | some f => (fs, .ok f)
    | none => open? fs (l.clock 0).time l.name
  match opened with
  | (fs, .error e) => (fs, .error e)
  | (fs, .ok f) => if l.isFull fs f line then l.rotate fs (l.clock 1) f.path else (fs, .ok f)

/-- The log file after a line, for which it was opened and rotated at most once. -/
def next (l : LogFile) (file : Option OpenFile) : LogFile :=
  { l with file := file, clock := fun n => l.clock (n + 2) }

@[simp] theorem file_next (l : LogFile) (file : Option OpenFile) : (l.next file).file = file := rfl

/-- Writes a line. Where that fails, the line is lost and the file is closed. -/
def write (l : LogFile) (fs : FileSystem) (line : String) : FileSystem × LogFile :=
  match l.fileFor fs line with
  | (fs, .ok f) => (fs.append f.id line.toUTF8, l.next (some f))
  | (fs, .error _) => (fs, l.next none)

end LogFile

end ProfilerBootstrap
