import ProfilerBootstrap.Text.Decoding
import ProfilerBootstrap.Yaml.Mark

namespace ProfilerBootstrap.Yaml

inductive Wanted
  | nameChar
  | digit
  | digitOrPoint
  | digitOrSpace
  | space
  | exclamation
  | closingAngle
  | uri
  | uriEscape
  | lineEnd
  | blockIndicator
  | hexDigits (count : Nat)
  deriving DecidableEq, Repr

def Wanted.name : Wanted → String
  | .nameChar => "alphabetic or numeric character"
  | .digit => "a digit"
  | .digitOrPoint => "a digit or '.'"
  | .digitOrSpace => "a digit or ' '"
  | .space => "' '"
  | .exclamation => "'!'"
  | .closingAngle => "'>'"
  | .uri => "URI"
  | .uriEscape => "URI escape sequence of 2 hexadecimal numbers"
  | .lineEnd => "a comment or a line break"
  | .blockIndicator => "chomping or indentation indicators"
  | .hexDigits count => s!"escape sequence of {count} hexadecimal numbers"

inductive TokenProblem
  | noTokenStart (found : Char)
  | noColon
  | noEntryHere
  | noKeyHere
  | noValueHere
  | unexpected (wanted : Wanted) (found : Char)
  | escapedBytes (fault : Decoding.Fault)
  | zeroIndentation
  | unknownEscape (found : Char)
  | endInQuotes
  | separatorInQuotes
  deriving DecidableEq, Repr

def quoteChar (c : Char) : String := Text.quotePoints [c.toNat]

def TokenProblem.message : TokenProblem → String
  | .noTokenStart c => s!"found character {quoteChar c} that cannot start any token"
  | .noColon => "could not find expected ':'"
  | .noEntryHere => "sequence entries are not allowed here"
  | .noKeyHere => "mapping keys are not allowed here"
  | .noValueHere => "mapping values are not allowed here"
  | .unexpected w c => s!"expected {w.name}, but found {quoteChar c}"
  | .escapedBytes f => f.message .utf8
  | .zeroIndentation => "expected indentation indicator in the range 1-9, but found 0"
  | .unknownEscape c => s!"found unknown escape character {quoteChar c}"
  | .endInQuotes => "found unexpected end of stream"
  | .separatorInQuotes => "found unexpected document separator"

/-- The token found is given by its name. -/
inductive GrammarProblem
  | noDocumentStart (found : String)
  | noBlockEnd (found : String)
  | noSequenceEnd (found : String)
  | noMappingEnd (found : String)
  | noNode (found : String)
  | secondVersion
  | wrongVersion
  | secondHandle (handle : String)
  | unknownHandle (handle : String)
  deriving DecidableEq, Repr

def GrammarProblem.message : GrammarProblem → String
  | .noDocumentStart t => s!"expected '<document start>', but found {Text.quote t}"
  | .noBlockEnd t => s!"expected <block end>, but found {Text.quote t}"
  | .noSequenceEnd t => s!"expected ',' or ']', but got {Text.quote t}"
  | .noMappingEnd t => s!"expected ',' or '\x7d', but got {Text.quote t}"
  | .noNode t => s!"expected the node content, but found {Text.quote t}"
  | .secondVersion => "found duplicate YAML directive"
  | .wrongVersion => "found incompatible YAML document (version 1.* is required)"
  | .secondHandle h => s!"duplicate tag handle {Text.quote h}"
  | .unknownHandle h => s!"found undefined tag handle {Text.quote h}"

inductive AnchorProblem
  | unknown (name : String)
  | second
  | secondDocument
  deriving DecidableEq, Repr

def AnchorProblem.message : AnchorProblem → String
  | .unknown name => s!"found undefined alias {Text.quote name}"
  | .second => "second occurrence"
  | .secondDocument => "but found another document"

inductive NodeKind
  | scalar
  | sequence
  | mapping
  deriving DecidableEq, Repr

def NodeKind.name : NodeKind → String
  | .scalar => "scalar"
  | .sequence => "sequence"
  | .mapping => "mapping"

inductive Base64Problem
  | padding
  | length (chars : Nat)
  deriving DecidableEq, Repr

def Base64Problem.message : Base64Problem → String
  | .padding => "Incorrect padding"
  | .length n => s!"Invalid base64-encoded string: number of data characters ({n}) cannot be 1 " ++
      "more than a multiple of 4"

def codePointText (n : Nat) : String :=
  if n < 0x100 then s!"'\\x{Text.hex 2 n}'"
  else if n < 0x10000 then s!"'\\u{Text.hex 4 n}'"
  else s!"'\\U{Text.hex 8 n}'"

inductive ValueProblem
  | wrongKind (wanted found : NodeKind)
  | unknownTag (tag : String)
  | unhashableKey
  | mergeScalar (found : NodeKind)
  | mergeItem (found : NodeKind)
  | notSequence (found : NodeKind)
  | notPair (found : NodeKind)
  | severalPairs (count : Nat)
  | notAscii (found first count : Nat)
  | base64 (problem : Base64Problem)
  deriving DecidableEq, Repr

def ValueProblem.message : ValueProblem → String
  | .wrongKind w k => s!"expected a {w.name} node, but found {k.name}"
  | .unknownTag t => s!"could not determine a constructor for the tag {Text.quote t}"
  | .unhashableKey => "found unhashable key"
  | .mergeScalar k => s!"expected a mapping or list of mappings for merging, but found {k.name}"
  | .mergeItem k => s!"expected a mapping for merging, but found {k.name}"
  | .notSequence k => s!"expected a sequence, but found {k.name}"
  | .notPair k => s!"expected a mapping of length 1, but found {k.name}"
  | .severalPairs n => s!"expected a single mapping item, but found {n} items"
  | .notAscii n first count =>
    let place :=
      if count = 1 then s!"character {codePointText n} in position {first}"
      else s!"characters in position {first}-{first + count - 1}"
    s!"failed to convert base64 data into ascii: 'ascii' codec can't encode {place}: " ++
      "ordinal not in range(128)"
  | .base64 p => s!"failed to decode base64 data: {p.message}"

inductive Problem
  | token (p : TokenProblem)
  | grammar (p : GrammarProblem)
  | anchor (p : AnchorProblem)
  | value (p : ValueProblem)
  deriving DecidableEq, Repr

def Problem.message : Problem → String
  | .token p => p.message
  | .grammar p => p.message
  | .anchor p => p.message
  | .value p => p.message

inductive Context
  | nextToken
  | simpleKey
  | directive
  | directiveUri
  | anchor
  | alias
  | tag
  | tagUri
  | blockScalar
  | quotedScalar
  | doubleQuotedScalar
  | blockSequence
  | blockMapping
  | flowSequence
  | flowMapping
  | blockNode
  | flowNode
  | taggedNode
  | firstAnchor (name : String)
  | singleDocument
  | mappingValue
  | orderedMap
  | pairs
  deriving DecidableEq, Repr

def Context.message : Context → String
  | .nextToken => "while scanning for the next token"
  | .simpleKey => "while scanning a simple key"
  | .directive => "while scanning a directive"
  | .directiveUri => "while parsing a directive"
  | .anchor => "while scanning an anchor"
  | .alias => "while scanning an alias"
  | .tag => "while scanning a tag"
  | .tagUri => "while parsing a tag"
  | .blockScalar => "while scanning a block scalar"
  | .quotedScalar => "while scanning a quoted scalar"
  | .doubleQuotedScalar => "while scanning a double-quoted scalar"
  | .blockSequence => "while parsing a block collection"
  | .blockMapping => "while parsing a block mapping"
  | .flowSequence => "while parsing a flow sequence"
  | .flowMapping => "while parsing a flow mapping"
  | .blockNode => "while parsing a block node"
  | .flowNode => "while parsing a flow node"
  | .taggedNode => "while parsing a node"
  | .firstAnchor name => s!"found duplicate anchor {Text.quote name}; first occurrence"
  | .singleDocument => "expected a single document in the stream"
  | .mappingValue => "while constructing a mapping"
  | .orderedMap => "while constructing an ordered map"
  | .pairs => "while constructing pairs"

/-- A scalar whose text does not fit its tag, in a way that no place is reported for. -/
inductive Unusable
  | charTooLarge
  | charOverflow
  | integer (base : Nat) (text : List Nat)
  | number (text : List Nat)
  | tooManyDigits (count : Nat)
  | noDigits
  | bool (text : List Nat)
  | timestamp
  | timestampOfNode
  | month
  | day
  | year
  | hour
  | minute
  | second
  | zone (days : Int) (seconds : Nat)
  | baseTooLarge
  | nesting
  deriving DecidableEq, Repr

/-- A span of time as days and the seconds of a started day. -/
def spanText (days : Int) (seconds : Nat) : String :=
  let parts := (if days = 0 then [] else [s!"days={days}"]) ++
    (if seconds = 0 then [] else [s!"seconds={seconds}"])
  let inner := if parts.isEmpty then "0" else String.intercalate ", " parts
  s!"datetime.timedelta({inner})"

def Unusable.message : Unusable → String
  | .charTooLarge => "chr() arg not in range(0x110000)"
  | .charOverflow => "Python int too large to convert to C int"
  | .integer base text =>
    s!"invalid literal for int() with base {base}: {((Text.quotePoints text).take 200).copy}"
  | .number text => s!"could not convert string to float: {Text.quotePoints text}"
  | .tooManyDigits n =>
    s!"Exceeds the limit (4300 digits) for integer string conversion: value has {n} digits; " ++
      "use sys.set_int_max_str_digits() to increase the limit"
  | .noDigits => "string index out of range"
  | .bool text => Text.quotePoints text
  | .timestamp => "'NoneType' object has no attribute 'groupdict'"
  | .timestampOfNode => "expected string or bytes-like object, got 'list'"
  | .month => "month must be in 1..12"
  | .day => "day is out of range for month"
  | .year => "year 0 is out of range"
  | .hour => "hour must be in 0..23"
  | .minute => "minute must be in 0..59"
  | .second => "second must be in 0..59"
  | .zone days seconds =>
    "offset must be a timedelta strictly between -timedelta(hours=24) and " ++
      s!"timedelta(hours=24), not {spanText days seconds}."
  | .baseTooLarge => "int too large to convert to float"
  | .nesting => "maximum recursion depth exceeded"

inductive Error
  | undecodable (fault : Decoding.Fault)
  | forbidden (c : Char) (index : Nat)
  | marked (context : Option Context) (start : Option Mark) (problem : Problem) (mark : Mark)
  | unusable (cause : Unusable)
  deriving DecidableEq, Repr

/-- The wording of an error in the document at a path. The place of the context is left out where
it is that of the problem. -/
def Error.message (path : String) : Error → String
  | .undecodable f =>
    s!"unacceptable character #x{Text.hex 4 f.byte.toNat}: {f.reason.message}\n  in \"{path}\", " ++
      s!"position {f.offset}"
  | .forbidden c index =>
    s!"unacceptable character #x{Text.hex 4 c.toNat}: special characters are not allowed\n" ++
      s!"  in \"{path}\", position {index}"
  | .marked context start problem mark =>
    let shown := start.filter fun s => s.line ≠ mark.line || s.column ≠ mark.column
    String.intercalate "\n" <|
      (context.map Context.message).toList ++ (shown.map (Mark.message path)).toList ++
        [problem.message, mark.message path]
  | .unusable u => u.message

/-- What could be read of something, item by item, and the error that ended the reading early. -/
structure Stream (α : Type) where
  items : List α
  error : Option Error

end ProfilerBootstrap.Yaml
