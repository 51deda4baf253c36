import ProfilerBootstrap.Bindings
import ProfilerBootstrap.Path

namespace ProfilerBootstrap

/-- The names from the root to an entry. -/
abbrev Location := List Name

abbrev FileId := Nat

inductive Entry
  | dir
  | link (target : List Char)
  | file (id : FileId)
  deriving DecidableEq, Repr

/-- What lies where, and the contents of the files apart from it, so that a file that is open keeps
its contents when it is moved or removed. -/
structure FileSystem where
  entries : List (Location × Entry)
  contents : Array ByteArray
  /-- Where relative paths begin. -/
  here : Location

namespace FileSystem

/-- What lies at a location; the root is always there. -/
def find? (fs : FileSystem) (l : Location) : Option Entry :=
  if l = [] then some .dir else fs.entries.lookup l

def erase (fs : FileSystem) (l : Location) : FileSystem :=
  { fs with entries := fs.entries.filter (·.1 ≠ l) }

def insert (fs : FileSystem) (l : Location) (e : Entry) : FileSystem :=
  { fs with entries := (l, e) :: (fs.erase l).entries }

theorem find?_erase (fs : FileSystem) (l : Location) {m : Location} (hm : m ≠ []) :
    (fs.erase l).find? m = if m = l then none else fs.find? m := by
  rw [find?, if_neg hm, find?, if_neg hm]
  exact Bindings.lookup_filter_ne l m fs.entries

theorem find?_insert (fs : FileSystem) (l : Location) (e : Entry) {m : Location} (hm : m ≠ []) :
    (fs.insert l e).find? m = if m = l then some e else fs.find? m := by
  have h := find?_erase fs l hm
  rw [find?, if_neg hm] at h
  rw [find?, if_neg hm, show (fs.insert l e).entries = (l, e) :: (fs.erase l).entries from rfl,
    Bindings.lookup_cons_eq, h]
  by_cases hl : m = l
  · rw [if_pos hl, if_pos hl]
  · rw [if_neg hl, if_neg hl, if_neg hl]

/-- Everything below a location, and the location itself. -/
def isWithin (l : Location) (m : Location) : Bool := l.isPrefixOf m

def eraseTree (fs : FileSystem) (l : Location) : FileSystem :=
  { fs with entries := fs.entries.filter fun e => !isWithin l e.1 }

/-- Moves an entry with everything below it to a location where nothing is left. -/
def move (fs : FileSystem) (l m : Location) : FileSystem :=
  { fs with
    entries := ((fs.erase m).entries).map fun e =>
      if isWithin l e.1 then (m ++ e.1.drop l.length, e.2) else e }

def isEmptyDir (fs : FileSystem) (l : Location) : Bool :=
  !fs.entries.any fun e => isWithin l e.1 && e.1 ≠ l

def read (fs : FileSystem) (id : FileId) : ByteArray := fs.contents.getD id .empty

def append (fs : FileSystem) (id : FileId) (bytes : ByteArray) : FileSystem :=
  { fs with contents := fs.contents.modify id (· ++ bytes) }

theorem read_append (fs : FileSystem) {id : FileId} (h : id < fs.contents.size)
    (bytes : ByteArray) : (fs.append id bytes).read id = fs.read id ++ bytes := by
  simp [read, append, Array.getD, h, Array.getElem_modify]

theorem read_append_of_ne (fs : FileSystem) {id other : FileId} (h : other ≠ id)
    (bytes : ByteArray) : (fs.append id bytes).read other = fs.read other := by
  by_cases ho : other < fs.contents.size
  · simp [read, append, Array.getD, ho, Array.getElem_modify, h.symm]
  · simp [read, append, Array.getD, ho]

def overwrite (fs : FileSystem) (id : FileId) (bytes : ByteArray) : FileSystem :=
  { fs with contents := fs.contents.set! id bytes }

def create (fs : FileSystem) (l : Location) : FileSystem × FileId :=
  let id := fs.contents.size
  ({ fs with contents := fs.contents.push .empty }.insert l (.file id), id)

end FileSystem

end ProfilerBootstrap
