import ProfilerBootstrap.Yaml.Token.Scalar
import ProfilerBootstrap.Yaml.Source

namespace ProfilerBootstrap.Yaml

/-- A node that a colon would make a key: the number of its token, and whether its place allows
nothing else. -/
structure PendingKey where
  number : Nat
  required : Bool
  mark : Mark

/-- The state of the layout between two tokens. -/
structure Layout where
  /-- The tokens, the last one first. -/
  tokens : List Token
  count : Nat
  /-- The columns of the open block collections, the innermost first. -/
  columns : List Nat
  keyAllowed : Bool
  /-- The pending key between the innermost brackets. -/
  key : Option PendingKey
  /-- The pending keys outside of them, one for each pair of open brackets. -/
  outerKeys : List (Option PendingKey)

namespace Layout

def start : Layout := ⟨[⟨.streamStart, .start, .start⟩], 1, [], true, none, []⟩

def inBrackets (l : Layout) : Bool := !l.outerKeys.isEmpty

/-- The least column of what belongs to the innermost block collection. -/
def margin (l : Layout) : Nat :=
  match l.columns with
  | [] => 0
  | c :: _ => c + 1

def settled (l : Layout) : Nat :=
  (l.key :: l.outerKeys).foldl (fun n k => match k with
    | none => n
    | some k => min n k.number) l.count

def push (l : Layout) (t : Token) : Layout :=
  { l with tokens := t :: l.tokens, count := l.count + 1 }

def insert (l : Layout) (number : Nat) (t : Token) : Layout :=
  let later := l.count - number
  { l with tokens := l.tokens.take later ++ t :: l.tokens.drop later, count := l.count + 1 }

/-- A key has to end on its line, within this many characters. -/
def longestKey : Nat := 1024

def isStale (m : Mark) (k : PendingKey) : Bool :=
  k.mark.line ≠ m.line || longestKey < m.index - k.mark.index

/-- Closes the block collections right of a column, or all of them. Between brackets columns mean
nothing. -/
def close (column : Option Nat) (m : Mark) (l : Layout) : Layout :=
  let closed := l.columns.takeWhile fun c => !l.inBrackets && column.all (· < c)
  closed.foldl (fun l _ => l.push ⟨.blockEnd, m, m⟩)
    { l with columns := l.columns.drop closed.length }

end Layout

abbrev LayoutM := StateT Layout Scan

namespace LayoutM

def inBrackets : LayoutM Bool := do return (← get).inBrackets

def push (t : Token) : LayoutM Unit := modify (·.push t)

def allowKey (allowed : Bool) : LayoutM Unit := modify ({ · with keyAllowed := allowed })

def giveUp (k : Option PendingKey) : LayoutM Unit := do
  if let some k := k then
    if k.required then Scan.fail Context.simpleKey k.mark .noColon

def dropStale : LayoutM Unit := do
  let l ← get
  let m ← Scan.mark
  for k in l.key :: l.outerKeys do giveUp (k.filter (Layout.isStale m))
  let keep := Option.filter (!Layout.isStale m ·)
  set { l with key := keep l.key, outerKeys := l.outerKeys.map keep }

def dropKey : LayoutM Unit := do
  giveUp (← get).key
  modify ({ · with key := none })

def offerKey : LayoutM Unit := do
  let l ← get
  if l.keyAllowed then
    dropKey
    let m ← Scan.mark
    let required := !l.inBrackets && l.margin = m.column + 1
    modify ({ · with key := some ⟨l.count, required, m⟩ })

/-- Begins a block collection at a column if that is right of the innermost open one. -/
def openBlock (column : Nat) : LayoutM Bool := do
  let l ← get
  if l.margin ≤ column then
    set { l with columns := column :: l.columns }
    return true
  else return false

def closeAll : LayoutM Unit := do
  let m ← Scan.mark
  modify (·.close none m)

def mark (kind : TokenKind) (width : Nat) : LayoutM Unit := do
  let start ← Scan.mark
  Scan.skipMany width
  push ⟨kind, start, ← Scan.mark⟩

def nextToken : LayoutM Unit := do
  if (← Scan.mark).index = 0 then
    if (← Scan.peek) = '\uFEFF' then Scan.skip
  let ended ← Scan.rounds (fun ended => do
    discard Scan.spaces
    Scan.comment
    let b ← Scan.lineBreak
    return (!b.isEmpty, ended || !b.isEmpty)) false
  if ended && !(← inBrackets) then allowKey true

def streamEnd : LayoutM Unit := do
  closeAll
  dropKey
  modify ({ · with keyAllowed := false, key := none, outerKeys := [] })
  mark .streamEnd 0

def directive : LayoutM Unit := do
  closeAll
  dropKey
  allowKey false
  push (← Scan.directive)

def documentMark (kind : TokenKind) : LayoutM Unit := do
  closeAll
  dropKey
  allowKey false
  mark kind 3

def openBracket (kind : TokenKind) : LayoutM Unit := do
  offerKey
  modify fun l => { l with keyAllowed := true, key := none, outerKeys := l.key :: l.outerKeys }
  mark kind 1

def closeBracket (kind : TokenKind) : LayoutM Unit := do
  dropKey
  modify fun l =>
    { l with keyAllowed := false, key := l.outerKeys.headD none, outerKeys := l.outerKeys.drop 1 }
  mark kind 1

def flowEntry : LayoutM Unit := do
  allowKey true
  dropKey
  mark .flowEntry 1

/-- An indicator outside brackets begins a block collection where none is open at its column. -/
def openAt (kind : TokenKind) (problem : TokenProblem) : LayoutM Unit := do
  if !(← inBrackets) then
    if !(← get).keyAllowed then Scan.fail none none problem
    if (← openBlock (← Scan.mark).column) then mark kind 0

def blockEntry : LayoutM Unit := do
  openAt .blockSequenceStart .noEntryHere
  allowKey true
  dropKey
  mark .blockEntry 1

def key : LayoutM Unit := do
  openAt .blockMappingStart .noKeyHere
  allowKey !(← inBrackets)
  dropKey
  mark .key 1

def value : LayoutM Unit := do
  match (← get).key with
  | some k =>
    let place := k.mark
    modify fun l => { l with key := none }.insert k.number ⟨.key, place, place⟩
    if !(← inBrackets) then
      if (← openBlock place.column) then
        modify (·.insert k.number ⟨.blockMappingStart, place, place⟩)
    allowKey false
  | none =>
    openAt .blockMappingStart .noValueHere
    allowKey !(← inBrackets)
  mark .value 1

def node (scan : Scan Token) : LayoutM Unit := do
  offerKey
  allowKey false
  push (← scan)

def block (folded : Bool) : LayoutM Unit := do
  allowKey true
  dropKey
  push (← Scan.block folded (← get).margin)

def plain : LayoutM Unit := do
  offerKey
  let l ← get
  let (t, lineEnded) ← Scan.plain l.inBrackets l.margin
  push t
  allowKey lineEnded

def indicators : List Char := "-?:,[]\x7b\x7d#&*!|>'\"%@`".toList

/-- Whether an indicator stands alone here. Between brackets `?` and `:` always do. -/
def standsAlone : LayoutM Bool := do return endsItem (← Scan.peekAt 1)

def otherToken (c : Char) : LayoutM Unit := do
  let brackets ← inBrackets
  if c = '-' then
    if (← standsAlone) then blockEntry else plain
  else if c = '?' then
    if brackets then key else if (← standsAlone) then key else plain
  else if c = ':' then
    if brackets then value else if (← standsAlone) then value else plain
  else if c = '|' && !brackets then block false
  else if c = '>' && !brackets then block true
  else if !endsItem c && !indicators.contains c then plain
  else Scan.fail Context.nextToken none (.noTokenStart c)

def fetch : LayoutM Bool := do
  nextToken
  dropStale
  let m ← Scan.mark
  modify (·.close m.column m)
  let c ← Scan.peek
  if c = endChar then
    streamEnd
    return true
  let separates ←
    if m.column = 0 && (c = '-' || c = '.') then liftM Scan.separator else pure false
  if c = '%' && m.column = 0 then directive
  else if separates then documentMark (if c = '-' then .documentStart else .documentEnd)
  else if c = '[' then openBracket .flowSequenceStart
  else if c = '\x7b' then openBracket .flowMappingStart
  else if c = ']' then closeBracket .flowSequenceEnd
  else if c = '\x7d' then closeBracket .flowMappingEnd
  else if c = ',' then flowEntry
  else if c = '*' || c = '&' then node Scan.anchor
  else if c = '!' then node Scan.tag
  else if c = '\'' || c = '"' then node Scan.quoted
  else otherToken c
  dropStale
  return false

end LayoutM

/-- The tokens from a state on. Where an error stops the reading, those not settled are lost. -/
def Layout.readFrom : Nat → Layout → Cursor → Stream Token
  | 0, l, _ => ⟨l.tokens.reverse, none⟩
  | n + 1, l, c =>
    match StateT.run (StateT.run LayoutM.fetch l) c with
    | .error e => ⟨l.tokens.reverse.take l.settled, some e⟩
    | .ok ((true, l), _) => ⟨l.tokens.reverse, none⟩
    | .ok ((false, l), c) => readFrom n l c

def Token.read (s : Stream Char) : Stream Token :=
  let limit := s.items.length + 1
  Layout.readFrom limit .start ⟨s.items, .start, s.error, limit⟩

end ProfilerBootstrap.Yaml
