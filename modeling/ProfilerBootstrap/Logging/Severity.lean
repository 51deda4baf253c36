import ProfilerBootstrap.Text.Quoted

namespace ProfilerBootstrap

/-- A name for the place on the scale that the number gives. -/
structure Severity where
  name : String
  number : Nat
  deriving DecidableEq, Repr

namespace Severity

def trace : Severity := ⟨"TRACE", 5⟩
def debug : Severity := ⟨"DEBUG", 10⟩
def info : Severity := ⟨"INFO", 20⟩
def success : Severity := ⟨"SUCCESS", 25⟩
def warning : Severity := ⟨"WARNING", 30⟩
def error : Severity := ⟨"ERROR", 40⟩
def critical : Severity := ⟨"CRITICAL", 50⟩

/-- The severities known by name, two of them beside the usual ones. -/
def named : List Severity :=
  [trace, ⟨"FINE", 7⟩, debug, info, ⟨"NOTICE", 25⟩, success, warning, error, critical]

def ofNumber (n : Nat) : Severity := ⟨s!"Level {n}", n⟩

/-- The names on log lines; any other severity goes by its own. -/
def shortNames : List (String × String) :=
  [("CRITICAL", "ERROR"), ("ERROR", "ERROR"), ("WARNING", "WARN"), ("SUCCESS", "INFO"),
    ("INFO", "INFO"), ("DEBUG", "DEBUG"), ("TRACE", "TRACE")]

def shortName (name : String) : String := (shortNames.lookup name).getD name

end Severity

inductive SeverityError
  | unknownName (name : String)
  | negative (number : Int)
  deriving DecidableEq, Repr

def SeverityError.message : SeverityError → String
  | .unknownName name => s!"Level '{name}' does not exist"
  | .negative n => s!"Invalid level value, it should be a positive integer, not: {n}"

def Severity.ofName (name : String) : Except SeverityError Severity :=
  match named.find? (·.name = name) with
  | some s => .ok s
  | none => .error (.unknownName name)

def Severity.ofInt (n : Int) : Except SeverityError Severity :=
  if n < 0 then .error (.negative n) else .ok (ofNumber n.toNat)

/-- A configured level. -/
inductive Level
  | off
  | error
  | warn
  | info
  | debug
  | trace
  deriving DecidableEq, Repr

namespace Level

def all : List Level := [off, error, warn, info, debug, trace]

def name : Level → String
  | off => "OFF"
  | error => "ERROR"
  | warn => "WARN"
  | info => "INFO"
  | debug => "DEBUG"
  | trace => "TRACE"

def number : Level → Nat
  | off => 0
  | error => 1
  | warn => 2
  | info => 3
  | debug => 4
  | trace => 5

/-- The least severe records that a level lets through. -/
def severity? : Level → Option Severity
  | off => none
  | error => some .error
  | warn => some .warning
  | info => some .info
  | debug => some .debug
  | trace => some .trace

def parse? (s : String) : Option Level := all.find? (·.name = upperCase s)

end Level

def unknownLevelMessage (s : String) : String := s!"Unknown log level: {Text.quote s}"

end ProfilerBootstrap
