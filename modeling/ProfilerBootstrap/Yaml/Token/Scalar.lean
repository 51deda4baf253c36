import ProfilerBootstrap.Yaml.Token.Name

namespace ProfilerBootstrap.Yaml.Scan

def isGap (c : Char) : Bool := c = ' ' || c = '\t'

def foldBreaks (first more : List Char) : List Char :=
  if first ≠ ['\n'] then first ++ more
  else if more.isEmpty then [' ']
  else more

def joinPieces (pieces : List (List Char)) : List Nat := pieces.reverse.flatten.map Char.toNat

namespace Quoted

def escapes : List (Char × Nat) :=
  [('0', 0), ('a', 7), ('b', 8), ('t', 9), ('\t', 9), ('n', 10), ('v', 11), ('f', 12), ('r', 13),
    ('e', 27), (' ', 32), ('"', 34), ('\\', 92), ('/', 47), ('N', 0x85), ('_', 0xA0), ('L', 0x2028),
    ('P', 0x2029)]

def codeLength : Char → Option Nat
  | 'x' => some 2
  | 'u' => some 4
  | 'U' => some 8
  | _ => none

/-- The line breaks after a first one. No document may end in between. -/
def breaks (start : Mark) : Scan (List Char) :=
  rounds (fun found => do
    if (← separator) then fail Context.quotedScalar start .separatorInQuotes
    discard <| run isGap
    let b ← lineBreak
    return (!b.isEmpty, found ++ b)) []

def escape (start : Mark) : Scan (List Nat) := do
  skip
  let c ← peek
  if let some n := escapes.lookup c then
    skip
    return [n]
  else if let some count := codeLength c then
    skip
    let n ← hexAhead .doubleQuotedScalar start (.hexDigits count) count
    if 0x7FFFFFFF < n then throw (.unusable .charOverflow)
    if 0x10FFFF < n then throw (.unusable .charTooLarge)
    skipMany count
    return [n]
  else if isLineBreak c then
    discard lineBreak
    return (← breaks start).map Char.toNat
  else fail Context.doubleQuotedScalar start (.unknownEscape c)

def words (double : Bool) (start : Mark) (pieces : List (List Nat)) : Scan (List (List Nat)) :=
  rounds (fun pieces => do
    let cs ← run fun c => !(c = '\'' || c = '"' || c = '\\' || endsItem c)
    let pieces := cs.map Char.toNat :: pieces
    let c ← peek
    if double then
      if c = '\\' then return (true, (← escape start) :: pieces)
      else if c = '\'' then
        skip
        return (true, [39] :: pieces)
      else return (false, pieces)
    else if c = '"' || c = '\\' then
      skip
      return (true, [c.toNat] :: pieces)
    else if c = '\'' then
      if (← peekAt 1) = '\'' then
        skipMany 2
        return (true, [39] :: pieces)
      else return (false, pieces)
    else return (false, pieces)) pieces

def gap (start : Mark) : Scan (List Nat) := do
  let blanks ← run isGap
  if (← peek) = endChar then fail Context.quotedScalar start .endInQuotes
  let first ← lineBreak
  if first.isEmpty then return blanks.map Char.toNat
  else return (foldBreaks first (← breaks start)).map Char.toNat

end Quoted

def quoted : Scan Token := do
  let start ← mark
  let quote ← peek
  let double := quote = '"'
  skip
  let pieces ← rounds (fun pieces => do
    if (← peek) = quote then return (false, pieces)
    else
      let gap ← Quoted.gap start
      return (true, ← Quoted.words double start (gap :: pieces))) (← Quoted.words double start [])
  skip
  return ⟨.scalar pieces.reverse.flatten false, start, ← mark⟩

namespace Plain

/-- A plain scalar ends before a colon that a gap follows. Inside brackets it also ends before what
separates and closes items. -/
def goesOn (flow : Bool) (c next : Char) : Bool :=
  !(endsItem c || (c = ':' && (endsItem next || (flow && ",[]\x7b\x7d".toList.contains next))) ||
    (flow && ",?[]\x7b\x7d".toList.contains c))

def breaks : Scan (Option (List Char)) := do
  if (← separator) then return none
  let (found, ended) ← rounds (fun (found, _) => do
    discard spaces
    let b ← lineBreak
    if b.isEmpty then return (false, found, false)
    else
      let ended ← separator
      return (!ended, found ++ b, ended)) ([], false)
  return if ended then none else some found

/-- The gap after a word, folded, and whether a line ended in it. -/
def gap : Scan (List Char × Bool) := do
  let blanks ← spaces
  let first ← lineBreak
  if first.isEmpty then return (blanks, false)
  else
    match ← breaks with
    | none => return ([], true)
    | some more => return (foldBreaks first more, true)

/-- What was read of a plain scalar: its pieces from last to first, the place after them, the gap
that follows, and whether a line ended in that gap. -/
structure Part where
  pieces : List (List Char)
  stop : Mark
  gap : List Char
  lineEnded : Bool

end Plain

/-- A scalar without quotes, and whether the line ended after it. Outside brackets its lines are
indented up to the margin at least. -/
def plain (flow : Bool) (margin : Nat) : Scan (Token × Bool) := do
  let start ← mark
  let part ← rounds (fun (s : Plain.Part) => do
    if (← peek) = '#' then return (false, s)
    let word ← run2 (Plain.goesOn flow)
    if (← peek) = ':' then discard <| peekAt 1
    if word.isEmpty then return (false, s)
    let stop ← mark
    let (gap, lineEnded) ← Plain.gap
    let s' : Plain.Part := ⟨word :: s.gap :: s.pieces, stop, gap, lineEnded⟩
    if gap.isEmpty then return (false, s')
    let next ← peek
    return (next ≠ '#' && (flow || margin ≤ (← mark).column), s')) ⟨[], start, [], false⟩
  return (⟨.scalar (joinPieces part.pieces) true, start, part.stop⟩, part.lineEnded)

namespace Block

def indentation (start : Mark) : Scan (Option Nat) := do
  let c ← peek
  if !c.isDigit then return none
  if c = '0' then fail Context.blockScalar start .zeroIndentation
  skip
  return some (c.toNat - 48)

/-- Whether all line breaks at the end are kept or none, if said. -/
def chomping : Scan (Option Bool) := do
  let c ← peek
  if c = '+' || c = '-' then
    skip
    return some (c = '+')
  else return none

def indicators (start : Mark) : Scan (Option Bool × Option Nat) := do
  let first ← chomping
  let indent ← indentation start
  let keep ← if first.isNone && indent.isSome then chomping else pure first
  if !endsWord (← peek) then fail Context.blockScalar start (.unexpected .blockIndicator (← peek))
  return (keep, indent)

/-- The empty lines in front, and the most spaces that any line up to the first full one begins
with. -/
def leadingLines : Scan (List Char × Nat) :=
  rounds (fun (found, deepest) => do
    let blanks ← spaces
    let column := (← mark).column
    let b ← lineBreak
    return (!b.isEmpty, found ++ b, if blanks.isEmpty then deepest else max deepest column)) ([], 0)

def emptyLines (indent : Nat) : Scan (List Char) := do
  spacesUpTo (indent - (← mark).column)
  rounds (fun found => do
    let b ← lineBreak
    if b.isEmpty then return (false, found)
    spacesUpTo indent
    return (true, found ++ b)) []

/-- What was read of a block scalar: its pieces from last to first, the break of the last line, and
the empty lines after it. -/
structure Part where
  pieces : List (List Char)
  lineBreak : List Char
  emptyLines : List Char

/-- Two lines are joined when neither begins with a gap. -/
def joint (folded : Bool) (first next : Char) (p : Part) : List Char :=
  if folded && p.lineBreak = ['\n'] && !isGap first && !isGap next then
    if p.emptyLines.isEmpty then [' '] else []
  else p.lineBreak

def hasLine (indent : Nat) : Scan Bool := do
  if (← mark).column = indent then return (← peek) ≠ endChar else return false

end Block

def block (folded : Bool) (margin : Nat) : Scan Token := do
  let start ← mark
  skip
  let (chomping, increment) ← Block.indicators start
  restOfLine .blockScalar start
  let least := max margin 1
  let (leading, indent) ← match increment with
    | some n => do
      let indent := least + n - 1
      pure (← Block.emptyLines indent, indent)
    | none => do
      let (leading, deepest) ← Block.leadingLines
      pure (leading, max least deepest)
  let part ← rounds (fun (p : Block.Part) => do
    if !(← Block.hasLine indent) then return (false, p)
    let first ← peek
    let line ← run (!endsLine ·)
    let lineBreak ← lineBreak
    let empty ← Block.emptyLines indent
    let p' : Block.Part := ⟨line :: p.emptyLines :: p.pieces, lineBreak, empty⟩
    if (← Block.hasLine indent) then
      let next ← peek
      return (true, { p' with pieces := Block.joint folded first next p' :: p'.pieces })
    else return (false, p')) ⟨[], [], leading⟩
  let last := if chomping = some false then [] else part.lineBreak
  let after := if chomping = some true then part.emptyLines else []
  return ⟨.scalar (joinPieces (after :: last :: part.pieces)) false, start, ← mark⟩

end ProfilerBootstrap.Yaml.Scan
