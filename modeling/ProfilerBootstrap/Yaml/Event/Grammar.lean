import ProfilerBootstrap.Yaml.Error
import ProfilerBootstrap.Yaml.Event
import ProfilerBootstrap.Yaml.Token

namespace ProfilerBootstrap.Yaml

/-- What may come next. A goal inside a collection knows where the collection began. -/
inductive Goal
  | stream
  | document (first : Bool)
  | documentContent
  | documentEnd
  /-- A node; a sequence in it may do without indentation where that is allowed. -/
  | node (block unindented : Bool)
  | blockItem (start : Mark)
  | unindentedItem
  | blockKey (start : Mark)
  | blockValue
  | flowItem (start : Mark) (first : Bool)
  | pairKey
  | pairValue
  | pairEnd
  | flowKey (start : Mark) (first : Bool)
  | flowValue
  /-- The value of a key that was written without a mark. -/
  | noValue
  deriving DecidableEq, Repr

/-- The tokens that are left, the error after the last of them, and the tag handles in force. -/
structure Remaining where
  tokens : List Token
  error : Option Error
  handles : List (String × String)

abbrev Parse := StateT Remaining (Except Error)

namespace Parse

def peek : Parse Token := do
  let s ← get
  match s.tokens, s.error with
  | t :: _, _ => return t
  | [], some e => throw e
  | [], none => return ⟨.streamEnd, .start, .start⟩

def next : Parse Token := do
  let t ← peek
  modify fun s => { s with tokens := s.tokens.drop 1 }
  return t

def sees (kinds : List TokenKind) : Parse Bool := do return kinds.contains (← peek).kind

def refuse (context : Option Context) (start : Option Mark) (problem : String → GrammarProblem) :
    Parse α := do
  let t ← peek
  throw (.marked context start (.grammar (problem t.kind.name)) t.start)

def standardHandles : List (String × String) := [("!", "!"), ("!!", "tag:yaml.org,2002:")]

/-- Takes the directives in front of a document. The list of handles has those of directives
before the standard ones. -/
def directives : Nat → Bool → List (String × String) → Parse Unit
  | 0, _, _ => return ()
  | n + 1, versioned, handles => do
    let t ← peek
    let bad (p : GrammarProblem) : Parse Unit :=
      throw (.marked none none (.grammar p) t.start)
    match t.kind with
    | .version major =>
      if versioned then bad .secondVersion
      if major ≠ 1 then bad .wrongVersion
      discard next
      directives n true handles
    | .tagHandle handle text =>
      if (handles.lookup handle).isSome then bad (.secondHandle handle)
      discard next
      directives n versioned ((handle, text) :: handles)
    | .directive =>
      discard next
      directives n versioned handles
    | _ => modify fun s => { s with handles := handles ++ standardHandles }

def isDirective : TokenKind → Bool
  | .version _ | .tagHandle .. | .directive => true
  | _ => false

abbrev Step := Parse (Event × List Goal)

def event (kind : EventKind) (m : Mark) (goals : List Goal) : Step :=
  return (⟨kind, m, none, none⟩, goals)

def emptyNode (m : Mark) (goals : List Goal) : Step := return (.empty m, goals)

/-- The properties of a node: an anchor and a tag in either order, with their places. -/
structure Properties where
  anchor : Option String
  tag : Option (Option String × String)
  start : Option Mark
  tagMark : Mark

def properties : Parse Properties := do
  let t ← peek
  match t.kind with
  | .anchor name =>
    discard next
    let u ← peek
    match u.kind with
    | .tag handle suffix =>
      discard next
      return ⟨some name, some (handle, suffix), some t.start, u.start⟩
    | _ => return ⟨some name, none, some t.start, t.start⟩
  | .tag handle suffix =>
    discard next
    match (← peek).kind with
    | .anchor name =>
      discard next
      return ⟨some name, some (handle, suffix), some t.start, t.start⟩
    | _ => return ⟨none, some (handle, suffix), some t.start, t.start⟩
  | _ => return ⟨none, none, none, t.start⟩

def resolveHandle (p : Properties) : Parse (Option String) := do
  match p.tag with
  | none => return none
  | some (none, suffix) => return some suffix
  | some (some handle, suffix) =>
    match (← get).handles.lookup handle with
    | some text => return some (text ++ suffix)
    | none =>
      throw (.marked (some .taggedNode) p.start (.grammar (.unknownHandle handle)) p.tagMark)

def node (block unindented : Bool) : Step := do
  if let ⟨.alias name, start, _⟩ ← peek then
    discard next
    return (⟨.alias name, start, none, none⟩, [])
  let p ← properties
  let tag ← resolveHandle p
  let t ← peek
  let begins (kind : EventKind) : Event := ⟨kind, p.start.getD t.start, p.anchor, tag⟩
  if unindented && t.kind = .blockEntry then return (begins .sequenceStart, [.unindentedItem])
  match t.kind with
  | .scalar text plain =>
    discard next
    return (begins (.scalar text ((plain && tag.isNone) || tag = some "!")), [])
  | .flowSequenceStart =>
    discard next
    return (begins .sequenceStart, [.flowItem t.start true])
  | .flowMappingStart =>
    discard next
    return (begins .mappingStart, [.flowKey t.start true])
  | .blockSequenceStart =>
    if block then
      discard next
      return (begins .sequenceStart, [.blockItem t.start])
  | .blockMappingStart =>
    if block then
      discard next
      return (begins .mappingStart, [.blockKey t.start])
  | _ => pure ()
  if p.anchor.isSome || tag.isSome then
    return (begins (.scalar [] (tag.isNone || tag = some "!")), [])
  refuse (if block then Context.blockNode else Context.flowNode) (p.start.getD t.start) .noNode

def nodeThen (block unindented : Bool) (after : List Goal) : Step := do
  let (e, goals) ← node block unindented
  return (e, goals ++ after)

/-- A node, unless one of these tokens shows that it was left out after the token `t`. -/
def nodeUnless (absent : List TokenKind) (t : Token) (block unindented : Bool)
    (after : List Goal) : Step := do
  if (← sees absent) then emptyNode t.stop after
  else nodeThen block unindented after

def documentStart (first : Bool) : Step := do
  let t ← peek
  if first && !isDirective t.kind && t.kind ≠ .documentStart && t.kind ≠ .streamEnd then
    modify ({ · with handles := standardHandles })
    return (⟨.documentStart, t.start, none, none⟩, [.node true false, .documentEnd])
  modify fun s => { s with tokens := s.tokens.dropWhile (·.kind = .documentEnd) }
  let t ← peek
  if t.kind = .streamEnd then
    discard next
    event .streamEnd t.start []
  else
    directives (← get).tokens.length false []
    if !(← sees [.documentStart]) then refuse none none .noDocumentStart
    discard next
    event .documentStart t.start [.documentContent, .documentEnd]

def documentContent : Step := do
  let t ← peek
  if isDirective t.kind || [.documentStart, .documentEnd, .streamEnd].contains t.kind then
    emptyNode t.start []
  else node true false

def documentEnd : Step := do
  let t ← peek
  if t.kind = .documentEnd then discard next
  event .documentEnd t.start [.document false]

def blockItem (start : Mark) : Step := do
  let t ← peek
  if t.kind = .blockEntry then
    discard next
    nodeUnless [.blockEntry, .blockEnd] t true false [.blockItem start]
  else if t.kind = .blockEnd then
    discard next
    event .sequenceEnd t.start []
  else refuse Context.blockSequence start .noBlockEnd

def unindentedItem : Step := do
  let t ← peek
  if t.kind = .blockEntry then
    discard next
    nodeUnless [.blockEntry, .key, .value, .blockEnd] t true false [.unindentedItem]
  else event .sequenceEnd t.start []

def blockKey (start : Mark) : Step := do
  let t ← peek
  if t.kind = .key then
    discard next
    nodeUnless [.key, .value, .blockEnd] t true true [.blockValue, .blockKey start]
  else if t.kind = .blockEnd then
    discard next
    event .mappingEnd t.start []
  else refuse Context.blockMapping start .noBlockEnd

def blockValue : Step := do
  let t ← peek
  if t.kind = .value then
    discard next
    nodeUnless [.key, .value, .blockEnd] t true true []
  else emptyNode t.start []

def comma (first : Bool) (context : Context) (start : Mark) (problem : String → GrammarProblem) :
    Parse Unit := do
  if !first then
    if (← sees [.flowEntry]) then discard next
    else refuse context start problem

def flowItem (start : Mark) (first : Bool) : Step := do
  if !(← sees [.flowSequenceEnd]) then comma first .flowSequence start .noSequenceEnd
  let t ← peek
  if t.kind = .key then event .mappingStart t.start [.pairKey, .flowItem start false]
  else if t.kind = .flowSequenceEnd then
    discard next
    event .sequenceEnd t.start []
  else nodeThen false false [.flowItem start false]

def pairKey : Step := do
  let t ← next
  nodeUnless [.value, .flowEntry, .flowSequenceEnd] t false false [.pairValue]

def pairValue : Step := do
  let t ← peek
  if t.kind = .value then
    discard next
    nodeUnless [.flowEntry, .flowSequenceEnd] t false false [.pairEnd]
  else emptyNode t.start [.pairEnd]

def flowKey (start : Mark) (first : Bool) : Step := do
  if !(← sees [.flowMappingEnd]) then comma first .flowMapping start .noMappingEnd
  let t ← peek
  if t.kind = .key then
    discard next
    nodeUnless [.value, .flowEntry, .flowMappingEnd] t false false
      [.flowValue, .flowKey start false]
  else if t.kind = .flowMappingEnd then
    discard next
    event .mappingEnd t.start []
  else nodeThen false false [.noValue, .flowKey start false]

def flowValue : Step := do
  let t ← peek
  if t.kind = .value then
    discard next
    nodeUnless [.flowEntry, .flowMappingEnd] t false false []
  else emptyNode t.start []

def step : Goal → Step
  | .stream => do
    let t ← next
    event .streamStart t.start [.document true]
  | .document first => documentStart first
  | .documentContent => documentContent
  | .documentEnd => documentEnd
  | .node block unindented => node block unindented
  | .blockItem start => blockItem start
  | .unindentedItem => unindentedItem
  | .blockKey start => blockKey start
  | .blockValue => blockValue
  | .flowItem start first => flowItem start first
  | .pairKey => pairKey
  | .pairValue => pairValue
  | .pairEnd => do event .mappingEnd (← peek).start []
  | .flowKey start first => flowKey start first
  | .flowValue => flowValue
  | .noValue => do emptyNode (← peek).start []

/-- The events up to the first error, those before in reverse. -/
def readFrom : Nat → List Event → List Goal → Remaining → Stream Event
  | n + 1, done, g :: goals, s =>
    match (step g).run s with
    | .error e => ⟨done.reverse, some e⟩
    | .ok ((e, more), s) => readFrom n (e :: done) (more ++ goals) s
  | _, done, _, _ => ⟨done.reverse, none⟩

end Parse

/-- The events of a document. No token takes part in more than four of them. -/
def Event.read (s : Stream Token) : Stream Event :=
  Parse.readFrom (4 * s.items.length + 4) [] [.stream] ⟨s.items, s.error, []⟩

end ProfilerBootstrap.Yaml
