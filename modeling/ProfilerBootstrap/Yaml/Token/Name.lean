import ProfilerBootstrap.Yaml.Cursor
import ProfilerBootstrap.Yaml.Token

namespace ProfilerBootstrap.Yaml.Scan

def isUriChar (c : Char) : Bool := c.isAlphanum || "-;/?:@&=+$,_.!~*'()[]%".toList.contains c

def hexAhead (context : Context) (start : Mark) (wanted : Wanted) (count : Nat) : Scan Nat := do
  let good := ((← get).rest.take count).takeWhile isHexDigit
  if good.length < count then fail context start (.unexpected wanted (← peekAt good.length))
  return hexValue good

/-- A run of escaped bytes, which together have to be UTF-8. -/
def uriEscapes (context : Context) (start : Mark) : Scan (List Char) := do
  let place ← mark
  let bytes ← rounds (fun bytes => do
    if (← peek) = '%' then
      skip
      let n ← hexAhead context start .uriEscape 2
      skipMany 2
      return (true, UInt8.ofNat n :: bytes)
    else return (false, bytes)) []
  match Decoding.decode .utf8 bytes.reverse with
  | .ok cs => return cs
  | .error f => throw (.marked context start (.token (.escapedBytes f)) place)

structure TagPlace where
  scanning : Context
  reading : Context
  start : Mark

def TagPlace.ofDirective (start : Mark) : TagPlace := ⟨.directive, .directiveUri, start⟩

def TagPlace.ofNode (start : Mark) : TagPlace := ⟨.tag, .tagUri, start⟩

def tagUri (p : TagPlace) : Scan String := do
  let cs ← rounds (fun cs => do
    let more ← run fun c => isUriChar c && c ≠ '%'
    if (← peek) = '%' then
      let escaped ← uriEscapes p.scanning p.start
      return (true, cs ++ more ++ escaped)
    else return (false, cs ++ more)) []
  if cs.isEmpty then fail p.reading p.start (.unexpected .uri (← peek))
  return String.ofList cs

def tagHandle (p : TagPlace) : Scan String := do
  if (← peek) ≠ '!' then fail p.scanning p.start (.unexpected .exclamation (← peek))
  skip
  if (← peek) = ' ' then return "!"
  let name ← run isWordChar
  if (← peek) ≠ '!' then fail p.scanning p.start (.unexpected .exclamation (← peek))
  skip
  return String.ofList ('!' :: name ++ ['!'])

def greatestDigits : Nat := 4300

def versionNumber (start : Mark) : Scan Nat := do
  if !(← peek).isDigit then fail Context.directive start (.unexpected .digit (← peek))
  let ds ← run Char.isDigit
  if greatestDigits < ds.length then throw (.unusable (.tooManyDigits ds.length))
  return ds.foldl (fun n c => 10 * n + (c.toNat - 48)) 0

def restOfLine (context : Context) (start : Mark) : Scan Unit := do
  discard spaces
  comment
  if !endsLine (← peek) then fail context start (.unexpected .lineEnd (← peek))
  discard lineBreak

def directive : Scan Token := do
  let start ← mark
  skip
  let name ← run isWordChar
  if name.isEmpty || !endsWord (← peek) then
    fail Context.directive start (.unexpected .nameChar (← peek))
  let kind ←
    if name = ['Y', 'A', 'M', 'L'] then
      discard spaces
      let major ← versionNumber start
      if (← peek) ≠ '.' then fail Context.directive start (.unexpected .digitOrPoint (← peek))
      skip
      discard <| versionNumber start
      if !endsWord (← peek) then fail Context.directive start (.unexpected .digitOrSpace (← peek))
      pure (TokenKind.version major)
    else if name = ['T', 'A', 'G'] then
      let place := TagPlace.ofDirective start
      discard spaces
      let handle ← tagHandle place
      if (← peek) ≠ ' ' then fail Context.directive start (.unexpected .space (← peek))
      discard spaces
      let text ← tagUri place
      if !endsWord (← peek) then fail Context.directive start (.unexpected .space (← peek))
      pure (TokenKind.tagHandle handle text)
    else pure TokenKind.directive
  let stop ← mark
  if kind = .directive then discard <| run (!endsLine ·)
  restOfLine .directive start
  return ⟨kind, start, stop⟩

def anchor : Scan Token := do
  let start ← mark
  let isAlias := (← peek) = '*'
  let context := if isAlias then Context.alias else Context.anchor
  skip
  let name ← run isWordChar
  let next ← peek
  if name.isEmpty || !(endsItem next || "?:,]\x7d%@`".toList.contains next) then
    fail context start (.unexpected .nameChar next)
  let name := String.ofList name
  return ⟨if isAlias then .alias name else .anchor name, start, ← mark⟩

/-- A second `!` before the end of the word tells a handle from the `!` that stands alone. -/
def hasHandle : Scan Bool := do
  let word := ((← get).rest.drop 1).takeWhile fun c => !endsWord c && c ≠ '!'
  return (← peekAt (word.length + 1)) = '!'

/-- A tag with its handle, if it has one. A single `!` has none and is its own suffix. -/
def tag : Scan Token := do
  let start ← mark
  let place := TagPlace.ofNode start
  let next ← peekAt 1
  let kind ←
    if next = '<' then
      skipMany 2
      let uri ← tagUri place
      if (← peek) ≠ '>' then fail Context.tagUri start (.unexpected .closingAngle (← peek))
      skip
      pure (TokenKind.tag none uri)
    else if endsItem next then
      skip
      pure (TokenKind.tag none "!")
    else
      let handle ← if (← hasHandle) then tagHandle place else do skip; pure "!"
      pure (TokenKind.tag handle (← tagUri place))
  if !endsWord (← peek) then fail Context.tag start (.unexpected .space (← peek))
  return ⟨kind, start, ← mark⟩

end ProfilerBootstrap.Yaml.Scan
