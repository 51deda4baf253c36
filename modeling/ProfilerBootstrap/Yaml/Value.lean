import ProfilerBootstrap.Yaml.Node
import ProfilerBootstrap.Yaml.Number
import ProfilerBootstrap.Yaml.Time

namespace ProfilerBootstrap.Yaml

abbrev Ref := Nat

inductive Value
  | null
  | bool (b : Bool)
  | int (n : Int)
  | float (x : Float)
  /-- Not a number: the common one, or one that a node made for itself. -/
  | nan (source : Option NodeId)
  | str (text : List Nat)
  | bytes (bs : List UInt8)
  | date (d : Date)
  | time (t : Timestamp)
  | pair (first second : Value)
  | ref (r : Ref)
  deriving Repr

instance : Inhabited Value := ⟨.null⟩

namespace Value

/-- The number that a value is as a key; the truth values are the numbers one and zero. -/
def whole? : Value → Option Int
  | bool b => some (if b then 1 else 0)
  | int n => some n
  | float x => Decimal.whole? x
  | _ => none

def same (v w : Value) : Bool :=
  match v.whole?, w.whole? with
  | some m, some n => m = n
  | none, none =>
    match v, w with
    | null, null => true
    | float x, float y => x == y
    | nan a, nan b => a = b
    | str s, str t => s = t
    | bytes a, bytes b => a = b
    | date a, date b => a = b
    | time a, time b => a.same b
    | _, _ => false
  | _, _ => false

end Value

/-- What a container holds, in order. -/
inductive Items
  | list (items : List Value)
  | map (entries : List (Value × Value))
  | set (items : List Value)
  deriving Repr

instance : Inhabited Items := ⟨.list []⟩

/-- Sets the value of a key. A key that is there keeps its place. -/
def insertKey (k v : Value) : List (Value × Value) → List (Value × Value)
  | [] => [(k, v)]
  | (k', v') :: rest => if k'.same k then (k', v) :: rest else (k', v') :: insertKey k v rest

/-- A value with the containers that it refers to. -/
structure Document where
  heap : Array Items
  root : Value

def Document.items? (d : Document) : Value → Option Items
  | .ref r => d.heap[r]?
  | _ => none

end ProfilerBootstrap.Yaml
