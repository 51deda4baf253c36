import ProfilerBootstrap.Yaml.Error

namespace ProfilerBootstrap.Yaml

structure Date where
  year : Nat
  month : Nat
  day : Nat
  deriving DecidableEq, Repr

/-- A date, a time of day, and the minutes that its zone is ahead of the world's time. -/
structure Timestamp where
  date : Date
  hour : Nat
  minute : Nat
  second : Nat
  micro : Nat
  zone : Option Int
  deriving DecidableEq, Repr

def padded (width n : Nat) : String :=
  let ds := Nat.toDigits 10 n
  String.ofList (List.replicate (width - ds.length) '0' ++ ds)

namespace Date

def isLeap (year : Nat) : Bool := year % 4 = 0 && (year % 100 ≠ 0 || year % 400 = 0)

def monthLength (year month : Nat) : Nat :=
  if month = 2 then if isLeap year then 29 else 28
  else if [4, 6, 9, 11].contains month then 30
  else 31

def ordinal (d : Date) : Nat :=
  let y := d.year - 1
  365 * y + y / 4 - y / 100 + y / 400 +
    (List.range (d.month - 1)).foldl (fun n m => n + monthLength d.year (m + 1)) 0 + (d.day - 1)

def check (d : Date) : Except Unusable Unit :=
  if d.year = 0 then .error .year
  else if d.month = 0 ∨ 12 < d.month then .error .month
  else if d.day = 0 ∨ monthLength d.year d.month < d.day then .error .day
  else .ok ()

def text (d : Date) : String := s!"{padded 4 d.year}-{padded 2 d.month}-{padded 2 d.day}"

end Date

namespace Timestamp

def dayMinutes : Nat := 24 * 60

/-- The microseconds from the first moment of the year 1, where the zone is known. -/
def moment? (t : Timestamp) : Option Int :=
  t.zone.map fun z =>
    (((t.date.ordinal * dayMinutes + t.hour * 60 + t.minute : Int) - z) * 60 + t.second) * 1000000 +
      t.micro

def same (t u : Timestamp) : Bool :=
  match t.moment?, u.moment? with
  | some a, some b => a = b
  | none, none => t = u
  | _, _ => false

def check (t : Timestamp) : Except Unusable Unit := do
  t.date.check
  if 23 < t.hour then throw .hour
  if 59 < t.minute then throw .minute
  if 59 < t.second then throw .second

def zoneText (z : Int) : String :=
  let sign := if z < 0 then "-" else "+"
  s!"{sign}{padded 2 (z.natAbs / 60)}:{padded 2 (z.natAbs % 60)}"

def text (t : Timestamp) : String :=
  let micro := if t.micro = 0 then "" else s!".{padded 6 t.micro}"
  let zone := (t.zone.map zoneText).getD ""
  s!"{t.date.text}T{padded 2 t.hour}:{padded 2 t.minute}:{padded 2 t.second}{micro}{zone}"

end Timestamp

abbrev Reader := StateT (List Char) Option

namespace Reader

def digits (least most : Nat) : Reader (List Char) := fun cs =>
  let ds := (cs.take most).takeWhile Char.isDigit
  if ds.length < least then none else some (ds, cs.drop ds.length)

def valueOf (ds : List Char) : Nat := ds.foldl (fun n c => 10 * n + (c.toNat - 48)) 0

def number (least most : Nat) : Reader Nat := do return valueOf (← digits least most)

def one (p : Char → Bool) : Reader Char
  | c :: rest => if p c then some (c, rest) else none
  | [] => none

def char (c : Char) : Reader Unit := discard (one (· = c))

def gaps : Reader Nat := fun cs =>
  let rest := cs.dropWhile fun c => c = ' ' || c = '\t'
  some (cs.length - rest.length, rest)

def optional (r : Reader α) : Reader (Option α) := fun cs =>
  match r cs with
  | some (a, rest) => some (some a, rest)
  | none => some (none, cs)

def date : Reader Date := do
  let year ← number 4 4
  char '-'
  let month ← number 1 2
  char '-'
  return ⟨year, month, ← number 1 2⟩

def millionths : Reader Nat := do
  char '.'
  let ds := (← fun cs => some (cs.takeWhile Char.isDigit, cs.dropWhile Char.isDigit)).take 6
  return valueOf (ds ++ List.replicate (6 - ds.length) '0')

def zone : Reader Int := do
  discard gaps
  let c ← one fun c => c = 'Z' || c = '+' || c = '-'
  if c = 'Z' then return 0
  else
    let hours ← number 1 2
    let minutes := (← optional (do char ':'; number 2 2)).getD 0
    let z : Int := hours * 60 + minutes
    return if c = '-' then -z else z

def timeOf (d : Date) : Reader Timestamp := do
  if (← gaps) = 0 then discard <| one fun c => c = 'T' || c = 't'
  let hour ← number 1 2
  char ':'
  let minute ← number 2 2
  char ':'
  let second ← number 2 2
  let micro := (← optional millionths).getD 0
  return ⟨d, hour, minute, second, micro, ← optional zone⟩

def finish : Reader Unit := fun cs => if cs = [] ∨ cs = ['\n'] then some ((), []) else none

end Reader

/-- The date or time that a text stands for. A zone is less than a day away. -/
def readTime (text : List Nat) : Except Unusable (Date ⊕ Timestamp) := do
  let read : Reader (Date × Option Timestamp) := do
    let d ← Reader.date
    let t ← Reader.optional (Reader.timeOf d)
    Reader.finish
    return (d, t)
  match (read.run (text.map Char.ofNat)).map (·.1) with
  | none => throw .timestamp
  | some (d, none) =>
    d.check
    return .inl d
  | some (_, some t) =>
    if let some z := t.zone then
      if Timestamp.dayMinutes ≤ z.natAbs then
        throw (.zone (z.fdiv Timestamp.dayMinutes) (z.fmod Timestamp.dayMinutes * 60).toNat)
    t.check
    return .inr t

end ProfilerBootstrap.Yaml
