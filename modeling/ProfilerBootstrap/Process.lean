import ProfilerBootstrap.Dotenv.Load
import ProfilerBootstrap.Settings

namespace ProfilerBootstrap

/-- The flags of a process: the two that are among its settings, and those that it has besides. -/
inductive FlagName
  | logIl
  | callTarget
  | own (n : Nat)
  deriving DecidableEq, Repr

structure Process where
  env : Environment
  fs : FileSystem
  flags : FlagName → Flag

namespace Process

/-- A process that has used no flag yet. Its own flags have these variables and defaults. -/
def start (env : Environment) (fs : FileSystem) (own : Nat → String × Bool) : Process where
  env := env
  fs := fs
  flags
    | .logIl => .logIl
    | .callTarget => .callTarget
    | .own n => .unresolved (own n).1 (own n).2

def setFlag (s : Process) (f : FlagName) (flag : Flag) : Process :=
  { s with flags := fun g => if g = f then flag else s.flags g }

inductive Step
  | setVariable (name value : String)
  | unsetVariable (name : String)
  /-- Loads a file of variables. -/
  | loadVariables (p : Platform) (path : String)
  | loadSettings (p : Platform) (inlining : Bool) (system : Option String)
  | useFlag (f : FlagName)
  /-- Looks whether a flag is resolved, and how it is shown. -/
  | showFlag (f : FlagName)

inductive Answer
  | variableSet (r : Except VariableError Unit)
  | variableUnset
  | variablesLoaded (r : Except Dotenv.LoadError Bool)
  | settings (r : Except FileSystem.Error Settings)
  | value (b : Bool)
  | shown (resolved : Bool) (text : String)

def step (s : Process) : Step → Process × Logged Answer
  | .setVariable name value =>
    match s.env.set name value with
    | .ok env => ({ s with env := env }, pure (.variableSet (.ok ())))
    | .error e => (s, pure (.variableSet (.error e)))
  | .unsetVariable name => ({ s with env := s.env.erase name }, pure .variableUnset)
  | .loadVariables p path =>
    let r := Dotenv.load p s.env s.fs path
    ({ s with env := r.value.env }, ⟨.variablesLoaded r.value.result, r.records⟩)
  | .loadSettings p inlining system =>
    let flags := ⟨s.flags .logIl, s.flags .callTarget⟩
    match Settings.load s.env s.fs p flags inlining system with
    | (fs, ⟨.error e, records⟩) => ({ s with fs := fs }, ⟨.settings (.error e), records⟩)
    | (fs, ⟨.ok (t, flags), records⟩) =>
      (({ s with fs := fs }.setFlag .logIl flags.logIl).setFlag .callTarget flags.callTarget,
        ⟨.settings (.ok t), records⟩)
  | .useFlag f =>
    let r := (s.flags f).read s.env
    (s.setFlag f r.value.2, ⟨.value r.value.1, r.records⟩)
  | .showFlag f => (s, pure (.shown (s.flags f).isResolved (s.flags f).text))

structure Event where
  process : Process
  step : Step

def Event.after (e : Event) : Process := (e.process.step e.step).1

def Event.answer (e : Event) : Logged Answer := (e.process.step e.step).2

/-- The value that a flag is found to have in an event, where the event uses it. -/
def Event.value? (e : Event) (f : FlagName) : Option Bool :=
  match e.step, e.answer.value with
  | .useFlag g, .value b => if g = f then some b else none
  | .loadSettings .., .settings (.ok t) =>
    match f with
    | .logIl => some t.logIl
    | .callTarget => some t.callTargetEnabled
    | .own _ => none
  | _, _ => none

def Event.uses (e : Event) (f : FlagName) : Bool := (e.value? f).isSome

def run (s : Process) : List Step → Process × List Event
  | [] => (s, [])
  | st :: rest =>
    let e : Event := ⟨s, st⟩
    let (s, es) := e.after.run rest
    (s, e :: es)

end Process

end ProfilerBootstrap
