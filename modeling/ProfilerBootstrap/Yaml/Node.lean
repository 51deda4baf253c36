import ProfilerBootstrap.Yaml.Error
import ProfilerBootstrap.Yaml.Event
import ProfilerBootstrap.Yaml.Tag

namespace ProfilerBootstrap.Yaml

abbrev NodeId := Nat

inductive Content
  | scalar (text : List Nat)
  | sequence (items : List NodeId)
  | mapping (pairs : List (NodeId × NodeId))
  deriving DecidableEq, Repr, Inhabited

def Content.kind : Content → NodeKind
  | .scalar _ => .scalar
  | .sequence _ => .sequence
  | .mapping _ => .mapping

structure Node where
  tag : Tag
  content : Content
  mark : Mark
  deriving Repr

instance : Inhabited Node := ⟨.null, .scalar [], .start⟩

/-- The nodes of a document. An alias is one more edge to the node of its anchor, so a node may lie
inside itself. -/
structure Graph where
  nodes : Array Node
  root : NodeId

namespace Graph

/-- A collection that has not ended: its parts so far, the last one first, and a key that waits for
its value. -/
inductive Open
  | sequence (id : NodeId) (items : List NodeId)
  | mapping (id : NodeId) (pairs : List (NodeId × NodeId)) (key : Option NodeId)

structure Builder where
  nodes : Array Node
  anchors : List (String × NodeId)
  unclosed : List Open
  root : Option NodeId

/-- Puts a node where the innermost open collection wants it. -/
def Builder.place (b : Builder) (id : NodeId) : Builder :=
  match b.unclosed with
  | [] => { b with root := some id }
  | .sequence s items :: rest => { b with unclosed := .sequence s (id :: items) :: rest }
  | .mapping m pairs none :: rest => { b with unclosed := .mapping m pairs (some id) :: rest }
  | .mapping m pairs (some key) :: rest =>
    { b with unclosed := .mapping m ((key, id) :: pairs) none :: rest }

def Builder.add (b : Builder) (e : Event) (tag : Tag) (content : Content) : Builder :=
  let id := b.nodes.size
  let b := b.place id
  let anchors := match e.anchor with
    | none => b.anchors
    | some name => (name, id) :: b.anchors
  { b with nodes := b.nodes.push ⟨tag, content, e.mark⟩, anchors := anchors }

/-- The tag that an event gives to its node; `!` leaves it to the kind of the node. -/
def tagOf (e : Event) (usual : Tag) : Tag :=
  match e.tag with
  | none => usual
  | some text => if text = "!" then usual else Tag.ofText text

def Builder.setContent (b : Builder) (id : NodeId) (content : Content) : Builder :=
  { b with nodes := b.nodes.modify id ({ · with content := content }) }

def Builder.close (b : Builder) : Builder :=
  match b.unclosed with
  | [] => b
  | .sequence id items :: rest =>
    { b with unclosed := rest }.setContent id (.sequence items.reverse)
  | .mapping id pairs _ :: rest =>
    { b with unclosed := rest }.setContent id (.mapping pairs.reverse)

def Builder.checkAnchor (b : Builder) (e : Event) : Except Error Unit :=
  match e.anchor with
  | none => return ()
  | some name =>
    match b.anchors.lookup name with
    | none => return ()
    | some id =>
      throw (.marked (some (.firstAnchor name)) (b.nodes.getD id default).mark (.anchor .second)
        e.mark)

def Builder.addEvent (b : Builder) (e : Event) : Except Error Builder := do
  match e.kind with
  | .streamStart | .streamEnd | .documentEnd => return b
  | .documentStart =>
    match b.root with
    | none => return b
    | some id =>
      throw (.marked (some .singleDocument) (b.nodes.getD id default).mark
        (.anchor .secondDocument) e.mark)
  | .alias name =>
    match b.anchors.lookup name with
    | some id => return b.place id
    | none => throw (.marked none none (.anchor (.unknown name)) e.mark)
  | .scalar text plain =>
    b.checkAnchor e
    let tag := if plain then Tag.ofPlain text else tagOf e .str
    return b.add e tag (.scalar text)
  | .sequenceStart =>
    b.checkAnchor e
    let id := b.nodes.size
    let b := b.add e (tagOf e .seq) (.sequence [])
    return { b with unclosed := .sequence id [] :: b.unclosed }
  | .mappingStart =>
    b.checkAnchor e
    let id := b.nodes.size
    let b := b.add e (tagOf e .map) (.mapping [])
    return { b with unclosed := .mapping id [] none :: b.unclosed }
  | .sequenceEnd | .mappingEnd => return b.close

/-- The graph of a stream with one document, or nothing for an empty one. -/
def ofEvents (s : Stream Event) : Except Error (Option Graph) := do
  let b ← s.items.foldlM Builder.addEvent ⟨#[], [], [], none⟩
  match s.error, b.root with
  | some e, _ => throw e
  | none, none => return none
  | none, some root => return some ⟨b.nodes, root⟩

end Graph

end ProfilerBootstrap.Yaml
