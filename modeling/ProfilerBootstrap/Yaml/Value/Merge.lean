import ProfilerBootstrap.Yaml.Node

namespace ProfilerBootstrap.Yaml.Merge

abbrev M := StateT (Array Node) (Except Error)

def node (id : NodeId) : M Node := do return (← get).getD id default

def setPairs (id : NodeId) (pairs : List (NodeId × NodeId)) : M Unit :=
  modify (·.modify id ({ · with content := .mapping pairs }))

def pairsOf (id : NodeId) : M (List (NodeId × NodeId)) := do
  match (← node id).content with
  | .mapping pairs => return pairs
  | _ => return []

def isMerge (nodes : Array Node) (p : NodeId × NodeId) : Bool :=
  (nodes.getD p.1 default).tag = .merge

/-- Takes the first merge key out of a mapping, and gives what stands under it. -/
def takeFirst (id : NodeId) : M (Option NodeId) := do
  let pairs ← pairsOf id
  let nodes ← get
  let before := pairs.takeWhile (!isMerge nodes ·)
  match pairs.drop before.length with
  | [] => return none
  | (_, under) :: after =>
    setPairs id (before ++ after)
    return some under

def bad (at_ : Mark) (problem : ValueProblem) (found : Node) : M α :=
  throw (.marked (some .mappingValue) at_ (.value problem) found.mark)

/-- A plain equals sign as a key is a string. -/
def nameValues (id : NodeId) : M Unit := do
  for (k, _) in (← pairsOf id) do
    if (← node k).tag = .value then modify (·.modify k ({ · with tag := .str }))

/-- The pairs of what stands under a merge key: of a mapping, or of each in a list of mappings, the
last one first. The merge keys of each mapping are resolved before. -/
def pairsUnder (resolve : NodeId → M Unit) (start : Mark) (under : NodeId) :
    M (List (NodeId × NodeId)) := do
  let found ← node under
  match found.content with
  | .mapping _ =>
    resolve under
    pairsOf under
  | .sequence items =>
    let groups ← items.mapM fun item => do
      let found ← node item
      match found.content with
      | .mapping _ =>
        resolve item
        pairsOf item
      | other => bad start (.mergeItem other.kind) found
    return groups.reverse.flatten
  | other => bad start (.mergeScalar other.kind) found

/-- Resolves the merge keys of a mapping, those of the mappings under them first. Each of them is
taken out before its mappings are looked at, which bounds the depth. -/
def flatten : Nat → NodeId → M Unit
  | 0, _ => throw (.unusable .nesting)
  | n + 1, id => do
    let start := (← node id).mark
    let nodes ← get
    let merges := (← pairsOf id).filter (isMerge nodes)
    let merged ← merges.foldlM (fun merged _ => do
      match ← takeFirst id with
      | none => return merged
      | some under => return merged ++ (← pairsUnder (flatten n) start under)) []
    nameValues id
    setPairs id (merged ++ (← pairsOf id))

def depth (nodes : Array Node) : Nat :=
  nodes.foldl (fun n node => match node.content with
    | .mapping pairs => n + (pairs.filter (isMerge nodes)).length
    | _ => n) 1

end ProfilerBootstrap.Yaml.Merge
