import ProfilerBootstrap.Text.Blank
import ProfilerBootstrap.Text.Fill

namespace ProfilerBootstrap.CommandLine

def program : String := "apm-profiler-env"

def version : String := "1.0.0"

inductive Command
  /-- Shows the settings. -/
  | settings
  /-- Lists the variables that concern the profiler. -/
  | listing
  /-- Sums up the manifest. -/
  | integrations
  deriving DecidableEq, Repr

namespace Command

def all : List Command := [settings, listing, integrations]

def word : Command → String
  | settings => "show"
  | listing => "env"
  | integrations => "integrations"

def ofWord? (s : String) : Option Command := all.find? (·.word = s)

def summary : Command → String
  | settings => "Show the resolved settings"
  | listing => "List profiler-related environment variables"
  | integrations => "Load and summarise the integrations manifest"

end Command

inductive Parameter
  | help
  | version
  | envFile
  | path
  deriving DecidableEq, Repr

namespace Parameter

def spellings : Parameter → List String
  | help => ["-h", "--help"]
  | version => ["--version"]
  | envFile => ["--env-file"]
  | path => ["--path"]

def label (p : Parameter) : String := String.intercalate "/" p.spellings

def valueName? : Parameter → Option String
  | help | version => none
  | envFile => some "ENV_FILE"
  | path => some "PATH"

def takesValue (p : Parameter) : Bool := p.valueName?.isSome

def summary : Parameter → String
  | help => "show this help message and exit"
  | version => "show program's version number and exit"
  | envFile => "Load environment variables from a dotenv file first"
  | path => "Manifest path (default: ELASTIC_APM_PROFILER_INTEGRATIONS)"

def withValue (p : Parameter) (spelling : String) : String :=
  match p.valueName? with
  | none => spelling
  | some name => s!"{spelling} {name}"

end Parameter

/-- Where words of the command line are read: before a command or after it. -/
inductive Page
  | overview
  | command (c : Command)
  deriving DecidableEq, Repr

namespace Page

def parameters : Page → List Parameter
  | overview => [.help, .version, .envFile]
  | command .integrations => [.help, .path]
  | command _ => [.help]

def title : Page → String
  | overview => program
  | command c => s!"{program} {c.word}"

def commandWords : String :=
  "\x7b" ++ String.intercalate "," (Command.all.map Command.word) ++ "\x7d"

/-- How a page is called: the optional parts, and those that are told by their place. -/
def parts (p : Page) : List String × List String :=
  (p.parameters.map fun q => "[" ++ q.withValue (q.spellings.headD "") ++ "]",
    match p with
    | overview => [commandWords, "..."]
    | command _ => [])

/-- Puts parts on a line that takes some cells already, and on lines below it. A line has one part
at least. -/
def flowParts (width : Int) (indent : Nat) (line : List String) (used : Nat) :
    List String → List String
  | [] => [String.intercalate " " line]
  | part :: rest =>
    if width < used + 1 + part.length ∧ line ≠ [] then
      String.intercalate " " line :: flowParts width indent [part] (indent + part.length) rest
    else flowParts width indent (line ++ [part]) (used + 1 + part.length) rest

def partLines (width : Int) (indent first : Nat) (parts : List String) : List String :=
  if parts = [] then [] else flowParts width indent [] (first - 1) parts

def usagePrefix : String := "usage: "

def usageLines (p : Page) (width : Int) : List String :=
  let (optional, placed) := p.parts
  let whole := String.intercalate " " (p.title :: optional ++ placed)
  let setIn (indent : Nat) (lines : List String) :=
    lines.map (String.ofList (List.replicate indent ' ') ++ ·)
  if usagePrefix.length + whole.length ≤ width then [whole]
  else if 4 * (usagePrefix.length + p.title.length) ≤ 3 * width then
    let indent := usagePrefix.length + p.title.length + 1
    match partLines width indent usagePrefix.length (p.title :: optional) with
    | [] => []
    | first :: rest => first :: setIn indent (rest ++ partLines width indent indent placed)
  else
    -- the words by which it is called stand alone
    let indent := usagePrefix.length
    let below := partLines width indent indent
    p.title :: setIn indent (match below (optional ++ placed) with
      | [] | [_] => below (optional ++ placed)
      | _ => below optional ++ below placed)

def usage (p : Page) (columns : Nat) : String :=
  usagePrefix ++ String.intercalate "\n" (p.usageLines (columns - 2 : Int)) ++ "\n"

def description? : Page → Option String
  | overview => some "Inspect the APM profiler's environment configuration"
  | command _ => none

/-- What is told of a parameter or a command, and how far it is set in. -/
structure Entry where
  indent : Nat
  header : String
  summary : String

def Entry.ofParameter (p : Parameter) : Entry :=
  ⟨2, String.intercalate ", " (p.spellings.map p.withValue), p.summary⟩

def sections (p : Page) : List (String × List Entry) :=
  (match p with
    | overview =>
      [("positional arguments:", ⟨2, commandWords, "Available commands"⟩ ::
        Command.all.map fun c => ⟨4, c.word, c.summary⟩)]
    | command _ => []) ++
    [("options:", p.parameters.map Entry.ofParameter)]

/-- The cell in which summaries begin, in lines of so many cells. -/
def summaryStart (p : Page) (width : Nat) : Nat :=
  let longest := (p.sections.flatMap Prod.snd).foldl (fun n e => max n e.header.length) 0
  min (longest + 4) (min 24 (max (width - 20) 4))

def leastWidth : Nat := 11

/-- An entry in lines. A header that is too long stands alone. -/
def Entry.text (e : Entry) (start width : Nat) : String :=
  let blanks (n : Nat) := String.ofList (List.replicate n ' ')
  let lines := Text.fill (max (width - start) leastWidth) e.summary
  let header := blanks e.indent ++ e.header
  let below := String.intercalate ("\n" ++ blanks start) lines ++ "\n"
  if e.indent + e.header.length + 2 ≤ start then
    header ++ blanks (start - (e.indent + e.header.length)) ++ below
  else header ++ "\n" ++ blanks start ++ below

def help (p : Page) (columns : Nat) : String :=
  let width := columns - 2
  let description := p.description?.toList.map fun s =>
    String.intercalate "\n" (Text.fill (max width leastWidth) s) ++ "\n"
  let sections := p.sections.map fun s =>
    s.1 ++ "\n" ++ String.join (s.2.map (·.text (p.summaryStart width) width))
  String.intercalate "\n" (p.usage columns :: description ++ sections)

end Page

end ProfilerBootstrap.CommandLine
