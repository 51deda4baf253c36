import ProfilerBootstrap.Yaml.Base64
import ProfilerBootstrap.Yaml.Value
import ProfilerBootstrap.Yaml.Value.Merge

namespace ProfilerBootstrap.Yaml

namespace Construction

/-- The nodes with merge keys resolved so far, the values that they have by now, the containers,
and those of them that are to be filled, the last one first. -/
structure State where
  nodes : Array Node
  values : Array (Option Value)
  heap : Array Items
  waiting : List (NodeId × Ref)

abbrev M := StateT State (Except Error)

def node (id : NodeId) : M Node := do return (← get).nodes.getD id default

def fail (context : Option Context) (start : Option Mark) (problem : ValueProblem) (m : Mark) :
    M α :=
  throw (.marked context start (.value problem) m)

/-- The text of a scalar. A mapping with a plain equals sign for a key has the text of what stands
under it. -/
def textOf : Nat → NodeId → M (List Nat)
  | 0, _ => throw (.unusable .nesting)
  | n + 1, id => do
    let s ← get
    let found ← node id
    match found.content with
    | .scalar text => return text
    | .mapping pairs =>
      match pairs.find? fun p => (s.nodes.getD p.1 default).tag = .value with
      | some (_, under) => textOf n under
      | none => fail none none (.wrongKind .scalar .mapping) found.mark
    | .sequence _ => fail none none (.wrongKind .scalar .sequence) found.mark

def text (id : NodeId) : M (List Nat) := do textOf ((← get).nodes.size + 1) id

def usable (r : Except Unusable α) : M α :=
  match r with
  | .ok a => return a
  | .error u => throw (.unusable u)

def binary (id : NodeId) : M Value := do
  let cs ← text id
  let m := (← node id).mark
  match Base64.notAscii? cs with
  | some (found, first, count) => fail none none (.notAscii found first count) m
  | none =>
    match Base64.decode cs with
    | .ok bs => return .bytes bs
    | .error p => fail none none (.base64 p) m

def timestamp (id : NodeId) : M Value := do
  discard <| text id
  match (← node id).content with
  | .scalar cs =>
    match ← usable (readTime cs) with
    | .inl d => return .date d
    | .inr t => return .time t
  | _ => throw (.unusable .timestampOfNode)

def float (id : NodeId) : M Value := do
  match ← usable (Number.float (← text id)) with
  | none => return .nan none
  | some x => return if x.isNaN then .nan (some id) else .float x

def container (id : NodeId) (items : Items) : M Value := do
  let r := (← get).heap.size
  modify fun s => { s with heap := s.heap.push items, waiting := (id, r) :: s.waiting }
  return .ref r

def make (id : NodeId) : M Value := do
  let n ← node id
  match n.tag with
  | .null =>
    discard <| text id
    return .null
  | .bool => return .bool (← usable (Number.bool (← text id)))
  | .int => return .int (← usable (Number.int (← text id)))
  | .float => float id
  | .binary => binary id
  | .timestamp => timestamp id
  | .str => return .str (← text id)
  | .orderedMap | .pairs | .seq => container id (.list [])
  | .set => container id (.set [])
  | .map => container id (.map [])
  | tag => fail none none (.unknownTag tag.text) n.mark

def valueOf (id : NodeId) : M Value := do
  match (← get).values.getD id none with
  | some v => return v
  | none =>
    let v ← make id
    modify fun s => { s with values := s.values.set! id (some v) }
    return v

/-- Containers may change and so cannot be keys. -/
def isHashable : Value → Bool
  | .ref _ => false
  | _ => true

def flatten (id : NodeId) : M Unit := do
  let s ← get
  let (_, nodes) ← Merge.flatten (Merge.depth s.nodes) id s.nodes
  set { s with nodes := nodes }

def keyed (start : Mark) (pairs : List (NodeId × NodeId)) : M (List (Value × Value)) :=
  pairs.foldlM (fun found (k, v) => do
    let key ← valueOf k
    if !isHashable key then fail (some .mappingValue) start .unhashableKey (← node k).mark
    return insertKey key (← valueOf v) found) []

def entries (id : NodeId) : M (List (Value × Value)) := do
  match (← node id).content with
  | .mapping _ => flatten id
  | _ => pure ()
  let n ← node id
  match n.content with
  | .mapping pairs => keyed n.mark pairs
  | other => fail none none (.wrongKind .mapping other.kind) n.mark

def singleEntries (context : Context) (id : NodeId) : M (List Value) := do
  let n ← node id
  match n.content with
  | .sequence items =>
    items.mapM fun item => do
      let m ← node item
      match m.content with
      | .mapping [(k, v)] => return .pair (← valueOf k) (← valueOf v)
      | .mapping pairs => fail context n.mark (.severalPairs pairs.length) m.mark
      | other => fail context n.mark (.notPair other.kind) m.mark
  | other => fail context n.mark (.notSequence other.kind) n.mark

def items (id : NodeId) : M (List Value) := do
  let n ← node id
  match n.content with
  | .sequence items => items.mapM valueOf
  | other => fail none none (.wrongKind .sequence other.kind) n.mark

def contents (id : NodeId) : M Items := do
  match (← node id).tag with
  | .orderedMap => return .list (← singleEntries .orderedMap id)
  | .pairs => return .list (← singleEntries .pairs id)
  | .set => return .set ((← entries id).map (·.1))
  | .map => return .map (← entries id)
  | _ => return .list (← items id)

/-- Fills the containers that wait, then those made meanwhile, and so on. -/
def fill : Nat → M Unit
  | 0 => return ()
  | n + 1 => do
    let waiting := (← get).waiting.reverse
    modify ({ · with waiting := [] })
    for (id, r) in waiting do
      let found ← contents id
      modify fun s => { s with heap := s.heap.set! r found }
    if !waiting.isEmpty then fill n

end Construction

/-- Every node is filled once, so there are no more rounds than nodes. -/
def Document.ofGraph (g : Graph) : Except Error Document := do
  let build : Construction.M Value := do
    let root ← Construction.valueOf g.root
    Construction.fill (g.nodes.size + 1)
    return root
  let (root, s) ← build.run ⟨g.nodes, Array.replicate g.nodes.size none, #[], []⟩
  return ⟨s.heap, root⟩

end ProfilerBootstrap.Yaml
