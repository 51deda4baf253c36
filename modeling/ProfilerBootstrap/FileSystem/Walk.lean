import ProfilerBootstrap.FileSystem
import ProfilerBootstrap.FileSystem.Error

namespace ProfilerBootstrap.FileSystem

/-- The most bytes of a name, the least that a path may not have, and the most links on the way. -/
def greatestName : Nat := 255

def pathLimit : Nat := 4096

def greatestLinks : Nat := 40

def byteLength : List Char → Nat
  | [] => 0
  | c :: cs => c.utf8Size + byteLength cs

/-- The end of a path: a location in a directory that is there, and what lies at it. -/
structure Place where
  location : Location
  entry : Option Entry
  deriving DecidableEq, Repr

/-- How far one goes without following a link. -/
inductive Leg
  | arrived (p : Place)
  | refused (c : Cause)
  /-- The directory of a link, its target, and the names after it. -/
  | link (from_ : Location) (target : List Char) (rest : List Name)

/-- The way from a directory. A link at the end is followed if asked for. -/
def leg (fs : FileSystem) (follow : Bool) : Location → List Name → Leg
  | l, [] => .arrived ⟨l, some .dir⟩
  | l, n :: rest =>
    if !Path.isName n then leg fs follow l rest
    else if n = ['.', '.'] then leg fs follow l.dropLast rest
    else if greatestName < byteLength n then .refused .nameTooLong
    else
      let m := l ++ [n]
      match fs.find? m with
      | none => if rest = [] then .arrived ⟨m, none⟩ else .refused .missing
      | some .dir => leg fs follow m rest
      | some (.file id) =>
        if rest = [] then .arrived ⟨m, some (.file id)⟩ else .refused .notDirectory
      | some (.link target) =>
        if rest = [] && !follow then .arrived ⟨m, some (.link target)⟩ else .link l target rest

def origin (l : Location) (cs : List Char) : Location := if cs.head? = some '/' then [] else l

def walkFrom (fs : FileSystem) (follow : Bool) : Nat → Location → List Name → Except Cause Place
  | links, l, names =>
    match leg fs follow l names with
    | .arrived p => .ok p
    | .refused c => .error c
    | .link l target rest =>
      match links with
      | 0 => .error .tooManyLinks
      | links + 1 => walkFrom fs follow links (origin l target) (Path.pieces target ++ rest)

def walk (fs : FileSystem) (follow : Bool) (path : String) : Except Cause Place :=
  let cs := path.toList
  if cs = [] then .error .missing
  else if pathLimit ≤ byteLength cs then .error .nameTooLong
  else walkFrom fs follow greatestLinks (origin fs.here cs) (Path.pieces cs)

def hasNull (path : String) : Bool := path.toList.contains '\x00'

/-- The place that a path leads to, for an operation that names the path when it fails. -/
def reach (fs : FileSystem) (follow : Bool) (path : String) : Except Error Place :=
  if hasNull path then .error .nullCharacter
  else match fs.walk follow path with
    | .ok p => .ok p
    | .error c => .error (.refused ⟨c, path, none⟩)

def entryAt (fs : FileSystem) (path : String) : Option Entry :=
  match fs.reach true path with
  | .ok p => p.entry
  | .error _ => none

def exists? (fs : FileSystem) (path : String) : Bool := (fs.entryAt path).isSome

def isDir (fs : FileSystem) (path : String) : Bool := fs.entryAt path = some .dir

/-- What a path leads to, links followed. That it leads nowhere is no error; that a name or the
path is too long is one. -/
def status (fs : FileSystem) (path : String) : Except Error (Option Entry) :=
  match fs.reach true path with
  | .ok p => .ok p.entry
  | .error (.refused r) => if r.cause = .nameTooLong then .error (.refused r) else .ok none
  | .error .nullCharacter => .ok none

end ProfilerBootstrap.FileSystem
