import ProfilerBootstrap.Logging.Host

namespace ProfilerBootstrap

/-- The lines of the files that were rolled, the oldest file first, and those of the file that is
written to. -/
structure LogHistory where
  rolled : List (List String)
  current : List String
  deriving DecidableEq, Repr

namespace LogHistory

def lines (h : LogHistory) : List String := h.rolled.flatten ++ h.current

def add (h : LogHistory) (line : String) : LogHistory := ⟨h.rolled, h.current ++ [line]⟩

def roll (h : LogHistory) (line : String) : LogHistory := ⟨h.rolled ++ [h.current], [line]⟩

/-- What the files hold if the first of them held something before. -/
def contents (h : LogHistory) (initial : ByteArray) : List ByteArray :=
  ((h.rolled ++ [h.current]).map fun lines => (String.join lines).toUTF8).modifyHead (initial ++ ·)

end LogHistory

def LogFile.isDue (l : LogFile) (fs : FileSystem) (line : String) : Bool :=
  match l.file with
  | none => false
  | some f => l.isFull fs f line

def Handler.logFile? (k : Handler) : Option (Nat × LogFile) :=
  match k.sink with
  | .file f => some (k.threshold, f)
  | .capture | .stdout | .stderr => none

def Logger.logFiles (l : Logger) : List (Nat × LogFile) := l.handlers.filterMap Handler.logFile?

namespace Host

def taker? (s : Host) (r : LogRecord) : Option LogFile :=
  s.logger.logFiles.findSome? fun (threshold, f) =>
    if r.severity.number < threshold then none else some f

/-- The lines that a step writes to the log file. -/
def linesOf (s : Host) : Step → List String
  | .log now r => if (s.taker? r).isSome then [r.line now] else []
  | .install _ | .initialise .. | .shutdown _ | .flush _ => []

def noted (s : Host) (h : LogHistory) : Step → LogHistory
  | .log now r => match s.taker? r with
    | none => h
    | some f => if f.isDue s.logger.fs (r.line now) then h.roll (r.line now) else h.add (r.line now)
  | .install _ | .initialise .. | .shutdown _ | .flush _ => h

/-- Whether nothing failed in a step: log files are open, and an installation has added a handler
for every sink. -/
def isSmooth (st : Step) (after : Host) : Bool :=
  after.logger.logFiles.all (·.2.file.isSome) &&
    match st with
    | .install c => after.logger.handlers.length = c.handlers.length
    | .initialise .. | .shutdown _ | .flush _ | .log .. => true

/-- A run in which nothing fails, with what it adds to a history. -/
def smoothRun (s : Host) (h : LogHistory) : List Step → Option (Host × LogHistory)
  | [] => some (s, h)
  | st :: rest => match s.step st with
    | .error _ => none
    | .ok t => if isSmooth st t then t.smoothRun (s.noted h st) rest else none

def linesOfRun (s : Host) : List Step → List String
  | [] => []
  | st :: rest => s.linesOf st ++ match s.step st with
    | .error _ => []
    | .ok t => t.linesOfRun rest

end Host

end ProfilerBootstrap
