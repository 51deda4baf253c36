import ProfilerBootstrap.CommandLine.Page
import ProfilerBootstrap.Text.Digit
import ProfilerBootstrap.Text.Quoted

namespace ProfilerBootstrap.CommandLine

inductive Misuse
  | ambiguous (word : String) (spellings : List String)
  | needsValue (p : Parameter)
  | unwantedValue (p : Parameter) (value : String)
  | unknownCommand (word : String)
  | leftOver (words : List String)
  deriving DecidableEq, Repr

def Misuse.message : Misuse → String
  | ambiguous word spellings =>
    s!"ambiguous option: {word} could match " ++ String.intercalate ", " spellings
  | needsValue p => s!"argument {p.label}: expected one argument"
  | unwantedValue p value =>
    s!"argument {p.label}: ignored explicit argument {Text.quote value}"
  | unknownCommand word =>
    let choices := String.intercalate ", " (Command.all.map fun c => Text.quote c.word)
    s!"argument command: invalid choice: {Text.quote word} (choose from {choices})"
  | leftOver words => "unrecognized arguments: " ++ String.intercalate " " words

inductive Answer
  | help (p : Page)
  | version
  | misuse (p : Page) (m : Misuse)
  deriving DecidableEq, Repr

namespace Answer

def exitCode : Answer → Nat
  | help _ | version => 0
  | misuse .. => 2

def stdout (columns : Nat) : Answer → String
  | help p => p.help columns
  | version => s!"{program} {CommandLine.version}\n"
  | misuse .. => ""

def stderr (columns : Nat) : Answer → String
  | misuse p m => p.usage columns ++ s!"{p.title}: error: {m.message}\n"
  | _ => ""

end Answer

/-- What a word of the command line is, by its looks. -/
inductive Word
  /-- A parameter, with the value that follows an equals sign. -/
  | parameter (p : Parameter) (value : Option String)
  /-- A parameter of one letter, with what follows the letter at once. -/
  | cluster (p : Parameter) (rest : List Char)
  /-- What looks like a parameter and is none. -/
  | unknown
  | operand
  /-- Two dashes, after which all words are operands. -/
  | separator
  deriving DecidableEq, Repr

namespace Word

def spellings (page : Page) : List (String × Parameter) :=
  page.parameters.flatMap fun p => p.spellings.map (·, p)

def splitValue (cs : List Char) : String × Option String :=
  (String.ofList (cs.takeWhile (· ≠ '=')),
    match cs.dropWhile (· ≠ '=') with
    | [] => none
    | _ :: value => some (String.ofList value))

def isNumber (cs : List Char) : Bool := cs ≠ [] && cs.all fun c => (Text.digit? c.toNat).isSome

/-- A number with a minus sign, with or without decimals. One line end may follow. -/
def isNegativeNumber (cs : List Char) : Bool :=
  let cs := if cs.getLast? = some '\n' then cs.dropLast else cs
  match cs with
  | '-' :: cs =>
    isNumber cs ||
      (match cs.dropWhile (· ≠ '.') with
        | '.' :: decimals =>
          isNumber decimals && (cs.head? = some '.' || isNumber (cs.takeWhile (· ≠ '.')))
        | _ => false)
  | _ => false

/-- The parameters that a word with dashes may mean: a long spelling may be cut short as long as it
means one parameter, and a letter may be followed by more. -/
def guesses (page : Page) (cs : List Char) : List (String × Word) :=
  match cs with
  | '-' :: '-' :: _ =>
    let (name, value) := splitValue cs
    ((spellings page).filter fun s => name.toList.isPrefixOf s.1.toList).map fun s =>
      (s.1, parameter s.2 value)
  | _ =>
    ((spellings page).filter fun s => s.1.toList = cs.take 2).map fun s =>
      (s.1, cluster s.2 (cs.drop 2))

def ofText (page : Page) (arg : String) : Except Misuse Word :=
  let cs := arg.toList
  if cs.head? ≠ some '-' then .ok operand
  else match (spellings page).lookup arg with
    | some p => .ok (parameter p none)
    | none =>
      let (name, value) := splitValue cs
      match cs, value, (spellings page).lookup name with
      | ['-'], _, _ => .ok operand
      | _, some v, some p => .ok (parameter p (some v))
      | _, _, _ =>
        match guesses page cs with
        | [] => .ok (if isNegativeNumber cs || cs.contains ' ' then operand else unknown)
        | [g] => .ok g.2
        | gs => .error (.ambiguous arg (gs.map Prod.fst))

def ofTexts (page : Page) : List String → Except Misuse (List (String × Word))
  | [] => .ok []
  | arg :: rest =>
    if arg = "--" then .ok ((arg, separator) :: rest.map (·, operand))
    else do
      let w ← ofText page arg
      let ws ← ofTexts page rest
      return (arg, w) :: ws

end Word

/-- What has been read of a page: the value of its parameter, the words that have no meaning there,
and the command with the words after it. -/
structure Reading where
  value : Option String
  left : List String
  command : Option (String × List String)
  deriving DecidableEq, Repr

namespace Reading

def empty : Reading := ⟨none, [], none⟩

def answerOf (page : Page) : Parameter → Answer
  | .version => .version
  | _ => .help page

/-- The answer to a parameter of one letter, by what follows the letter: more such parameters, the
first of which is obeyed, or a value. -/
def answerOfCluster (page : Page) (p : Parameter) : List Char → Answer
  | [] => answerOf page p
  | c :: rest =>
    if c = '-' then .misuse page (.unwantedValue p (String.ofList (c :: rest)))
    else match (Word.spellings page).lookup (String.ofList ['-', c]), rest with
      | some q, '=' :: value => .misuse page (.unwantedValue q (String.ofList value))
      | some q, rest => answerOfCluster page q rest
      | none, _ => answerOf page p

/-- Reads on. Before a command the first operand is the command. -/
def read (page : Page) (r : Reading) : List (String × Word) → Except Answer Reading
  | [] => .ok r
  | (arg, w) :: rest =>
    match w, page with
    | .operand, .overview => .ok { r with command := some (arg, rest.map Prod.fst) }
    | .separator, _ =>
      if page = .overview ∧ rest ≠ [] then
        .ok { r with command := some (arg, rest.map Prod.fst) }
      else .ok { r with left := r.left ++ arg :: rest.map Prod.fst }
    | .operand, _ | .unknown, _ => read page { r with left := r.left ++ [arg] } rest
    | .cluster p cs, _ => .error (answerOfCluster page p cs)
    | .parameter p (some value), _ =>
      if p.takesValue then read page { r with value := some value } rest
      else .error (.misuse page (.unwantedValue p value))
    | .parameter p none, _ =>
      if p.takesValue then
        match rest with
        | (value, .operand) :: rest => read page { r with value := some value } rest
        | _ => .error (.misuse page (.needsValue p))
      else .error (answerOf page p)

def ofTexts (page : Page) (args : List String) : Except Answer Reading :=
  match Word.ofTexts page args with
  | .ok ws => read page empty ws
  | .error m => .error (.misuse page m)

end Reading

inductive Task
  /-- Nothing was asked for, so the help is shown. -/
  | overview
  | settings
  | listing
  | integrations (path : Option String)
  deriving DecidableEq, Repr

structure Request where
  /-- A file of variables to load first. -/
  envFile : Option String
  task : Task
  deriving DecidableEq, Repr

namespace Request

def taskOf (c : Command) (value : Option String) : Task :=
  match c with
  | .settings => .settings
  | .listing => .listing
  | .integrations => .integrations value

def unlessLeft (left : List String) (r : Request) : Except Answer Request :=
  if left = [] then .ok r else .error (.misuse .overview (.leftOver left))

def ofTexts (args : List String) : Except Answer Request := do
  let r ← Reading.ofTexts .overview args
  match r.command with
  | none => unlessLeft r.left ⟨r.value, .overview⟩
  | some (word, rest) =>
    match Command.ofWord? word with
    | none => .error (.misuse .overview (.unknownCommand word))
    | some c =>
      let inner ← Reading.ofTexts (.command c) rest
      unlessLeft (r.left ++ inner.left) ⟨r.value, taskOf c inner.value⟩

end Request

end ProfilerBootstrap.CommandLine
