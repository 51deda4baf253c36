import ProfilerBootstrap.CommandLine.Request
import ProfilerBootstrap.Console.Markup
import ProfilerBootstrap.Console.Table
import ProfilerBootstrap.Dotenv.Load
import ProfilerBootstrap.Logging.Logger
import ProfilerBootstrap.Manifest.Load
import ProfilerBootstrap.Settings

namespace ProfilerBootstrap.CommandLine

open Console

/-- What the command line prints on. -/
structure Screen where
  /-- The cells of a line of the console. -/
  width : Nat
  /-- The columns for which help is set. -/
  columns : Nat
  events : Markup.EventReader

/-- The process in which a command runs. The environment may tell how wide the screen is. -/
structure Session where
  env : Environment
  platform : Platform
  flags : Flags
  logger : Logger
  screenIn : Environment → Screen

/-- What a command can fail with, beside what it tells the user. -/
inductive Failure
  | dotenv (e : Dotenv.LoadError)
  | files (e : FileSystem.Error)
  | manifest (f : Manifest.Failure)
  | markup (e : Markup.Error)

def Failure.message : Failure → String
  | dotenv e => e.message
  | files e => e.message
  | manifest (.disabled e) => e.message
  | manifest .nullCharacter => FileSystem.Error.message .nullCharacter
  | manifest (.unusable u) => u.message
  | markup e => e.message

/-- How a run ends: with an answer in place of a command, or after a command. -/
inductive Ending
  | answered (code : Nat)
  | finished (code : Nat)
  deriving DecidableEq, Repr

def Ending.code : Ending → Nat
  | answered n | finished n => n

def escaped (s : String) : List Char := Markup.escape s.toList

def textColumn (header : String) : Column := ⟨header.toList, .left⟩

/-- A table with its cells as markup. -/
structure Draft where
  title : String
  columns : List Column
  rows : List (List (List Char))

namespace Draft

def table (d : Draft) (rows : List (List Shown)) : Table := ⟨d.title.toList, d.columns, rows⟩

/-- The table for a screen. Where there is no room between the blanks of a cell, none is read. -/
def read (d : Draft) (screen : Screen) : Except Markup.Error Table :=
  if screen.width - (d.columns.length + 1) ≤ Table.padding then
    .ok (d.table (d.rows.map (List.map fun _ => .plain [])))
  else do
    let t := d.table (← d.rows.mapM (List.mapM (Markup.render screen.events)))
    if t.drawsBroken screen.width then .error .noDigits else .ok t

end Draft

def settingsRows (t : Settings) : List (List (List Char)) :=
  let unusable := if t.logDirectoryValid then "" else " [red](unusable)[/red]"
  let manifest := match t.integrationsPath with
    | some p => if p = "" then "[yellow]not set[/yellow]".toList else escaped p
    | none => "[yellow]not set[/yellow]".toList
  [("Log targets", (String.intercalate ", " (t.logTargets.map LogTarget.name)).toList),
    ("Log level", t.logLevel.name.toList),
    ("Log directory", escaped t.logDirectory.text ++ unusable.toList),
    ("Integrations", manifest),
    ("Log IL", (boolText t.logIl).toList),
    ("CallTarget enabled", (boolText t.callTargetEnabled).toList),
    ("Inlining enabled", (boolText t.enableInlining).toList),
    ("Optimizations disabled", (boolText t.disableOptimizations).toList)].map
    fun r => [r.1.toList, r.2]

def settingsDraft (t : Settings) : Draft :=
  ⟨"APM profiler settings", [textColumn "Setting", textColumn "Value"], settingsRows t⟩

def insertDistinct (p : Points) : List Points → List Points
  | [] => [p]
  | q :: qs =>
    if p = q then q :: qs else if p < q then p :: q :: qs else q :: insertDistinct p qs

/-- The assemblies with methods that an integration replaces, each once and in ascending order. -/
def assemblies (i : Manifest.Integration) : List Points :=
  (i.replacements.filterMap fun r => r.target.map (·.assembly)).foldr insertDistinct []

/-- An integration as a row of markup. The names of assemblies may hold tags. -/
def integrationRow (i : Manifest.Integration) : List (List Char) :=
  [escaped (ofPoints i.name), (toString i.replacements.length).toList,
    (String.intercalate ", " ((assemblies i).map ofPoints)).toList]

def integrationsOf (rs : Manifest.Records) : List Manifest.Integration :=
  rs.items.filterMap fun
    | .integration i => some i
    | _ => none

def integrationsDraft (is : List Manifest.Integration) : Draft where
  title := s!"{is.length} integrations"
  columns := [textColumn "Name", ⟨"Replacements".toList, .right⟩, textColumn "Target assemblies"]
  rows := is.map integrationRow

/-- The code by which a host learns of a failure, as an unsigned number. -/
def failureNumber : String := "0x" ++ Text.hex 8 (failureCode % 0x100000000).toNat

def problemMarkup (e : Manifest.LoadError) : List Char :=
  "[red]".toList ++ escaped e.message ++ s!"[/red] (HRESULT {failureNumber})".toList

namespace Session

def screen (s : Session) : Screen := s.screenIn s.env

def print (s : Session) (text : String) : Session :=
  { s with logger := { s.logger with stdout := s.logger.stdout ++ text } }

def printError (s : Session) (text : String) : Session :=
  { s with logger := { s.logger with stderr := s.logger.stderr ++ text } }

def emitAll (s : Session) (rs : List LogRecord) : Session :=
  { s with logger := s.logger.emitAll rs }

def printParagraph (s : Session) (cs : List Char) : Session :=
  s.print (paragraph s.screen.width cs)

def printTable (s : Session) (d : Draft) : Session × Except Failure Nat :=
  match d.read s.screen with
  | .ok t => (s.print (t.text s.screen.width), .ok 0)
  | .error e => (s, .error (.markup e))

/-- Leaves one handler, which shows warnings and worse to the user. -/
def showWarnings (s : Session) : Session :=
  { s with logger := s.logger.removeAll.add Severity.warning.number .stderr }

def badLineNotice (n : Nat) : String :=
  s!"python-dotenv could not parse statement starting at line {n}\n"

def loadVariables (s : Session) (path : String) : Session × Except Failure Unit :=
  let r := Dotenv.load s.platform s.env s.logger.fs path
  let s := (s.printError (String.join (r.value.badLines.map badLineNotice))).emitAll r.records
  ({ s with env := r.value.env }, (r.value.result.map fun _ => ()).mapError .dotenv)

def prepare (s : Session) (r : Request) : Session × Except Failure Unit :=
  match r.envFile with
  | some path => if path = "" then (s, .ok ()) else s.loadVariables path
  | none => (s, .ok ())

def showSettings (s : Session) : Session × Except Failure Nat :=
  let (fs, r) := Settings.load s.env s.logger.fs s.platform s.flags false none
  let s := { s with logger := { s.logger with fs := fs } }.emitAll r.records
  match r.value with
  | .ok (t, flags) => { s with flags := flags }.printTable (settingsDraft t)
  | .error e => (s, .error (.files e))

def showListing (s : Session) : Session :=
  if s.env.listing = "" then s.printParagraph "No profiler environment variables set".toList
  else s.printParagraph (Markup.literal s.env.listing.toList)

def loadManifest (s : Session) (path : Option String) :
    Logged (Except Manifest.Failure Manifest.Records) :=
  match path with
  | some p =>
    if p = "" then Manifest.loadNamed s.env s.logger.fs .integration
    else Manifest.load s.logger.fs .integration p
  | none => Manifest.loadNamed s.env s.logger.fs .integration

def showIntegrations (s : Session) (path : Option String) : Session × Except Failure Nat :=
  let r := s.loadManifest path
  let s := s.emitAll r.records
  match r.value with
  | .ok rs => s.printTable (integrationsDraft (integrationsOf rs))
  | .error (.disabled e) =>
    match Markup.render s.screen.events (problemMarkup e) with
    | .ok shown => (s.printParagraph shown.text, .ok 1)
    | .error e => (s, .error (.markup e))
  | .error f => (s, .error (.manifest f))

def perform (s : Session) : Task → Session × Except Failure Nat
  | .overview => (s.print (Page.overview.help s.screen.columns), .ok 0)
  | .settings => s.showSettings
  | .listing => (s.showListing, .ok 0)
  | .integrations path => s.showIntegrations path

def run (s : Session) (args : List String) : Session × Except Failure Ending :=
  match Request.ofTexts args with
  | .error a => ((s.print (a.stdout s.screen.columns)).printError (a.stderr s.screen.columns),
      .ok (.answered a.exitCode))
  | .ok r =>
    match s.showWarnings.prepare r with
    | (s, .error e) => (s, .error e)
    | (s, .ok ()) =>
      let (s, code) := s.perform r.task
      (s, code.map .finished)

end Session

end ProfilerBootstrap.CommandLine
