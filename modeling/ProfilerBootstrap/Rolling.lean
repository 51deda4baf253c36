import ProfilerBootstrap.FileSystem.Operation

namespace ProfilerBootstrap

/-- When a log file is rolled, and how many backups are kept. -/
structure RollingPolicy where
  maxSize : Int
  windowSize : Int
  deriving DecidableEq, Repr

def RollingPolicy.usual : RollingPolicy := ⟨5 * 1024 * 1024, 10⟩

inductive RollerError
  | noPlaceholder (pattern : String)
  | negativeCount
  deriving DecidableEq, Repr

def RollerError.message : RollerError → String
  | .noPlaceholder pattern => s!"Rolling pattern must contain \x7b\x7d: {Text.quote pattern}"
  | .negativeCount => "count must be >= 0"

namespace Rolling

/-- A pair of braces stands for the number of a backup. -/
def hasPlaceholder : List Char → Bool
  | '\x7b' :: '\x7d' :: _ => true
  | _ :: rest => hasPlaceholder rest
  | [] => false

def substitute (number : List Char) : List Char → List Char
  | '\x7b' :: '\x7d' :: rest => number ++ substitute number rest
  | c :: rest => c :: substitute number rest
  | [] => []

end Rolling

structure Roller where
  pattern : String
  count : Nat
  base : Int
  placed : Rolling.hasPlaceholder pattern.toList = true

namespace Roller

def make (pattern : String) (count base : Int) : Except RollerError Roller :=
  if h : Rolling.hasPlaceholder pattern.toList = true then
    if count < 0 then .error .negativeCount else .ok ⟨pattern, count.toNat, base, h⟩
  else .error (.noPlaceholder pattern)

def ofPolicy (pattern : String) (policy : RollingPolicy) : Except RollerError Roller :=
  make pattern policy.windowSize 0

def backup (r : Roller) (index : Int) : Path :=
  .ofChars (Rolling.substitute (toString index).toList r.pattern.toList)

def dropOldest (r : Roller) (fs : FileSystem) : Except FileSystem.Error FileSystem := do
  let oldest := (r.backup (r.base + r.count - 1)).text
  match ← fs.status oldest with
  | some _ => fs.unlink oldest
  | none => return fs

def moveUp (r : Roller) (n : Nat) (fs : FileSystem) : Except FileSystem.Error FileSystem := do
  let source := (r.backup (r.base + n)).text
  match ← fs.status source with
  | some _ => fs.rename source (r.backup (r.base + n + 1)).text
  | none => return fs

/-- Moves the backups of the first `n` numbers up by one, beginning with the last of them. -/
def shift (r : Roller) : Nat → FileSystem → FileSystem.Outcome
  | 0, fs => (fs, none)
  | n + 1, fs => (fs.attempt (r.moveUp n fs)).andThen (shift r n)

/-- Rolls a file into the window; a window of no numbers swallows it. -/
def roll (r : Roller) (fs : FileSystem) (path : String) : FileSystem.Outcome :=
  if r.count = 0 then fs.attempt (fs.unlink path)
  else
    (fs.attempt (r.dropOldest fs)).andThen fun fs =>
      (r.shift (r.count - 1) fs).andThen fun fs =>
        fs.attempt (fs.rename path (r.backup r.base).text)

end Roller

end ProfilerBootstrap
