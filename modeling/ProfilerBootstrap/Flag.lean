import ProfilerBootstrap.Variables

namespace ProfilerBootstrap

/-- A flag that is read from the environment at its first use, and keeps that value. -/
structure Flag where
  key : String
  default : Bool
  /-- The value, once the flag has been used. -/
  value? : Option Bool
  deriving DecidableEq, Repr

namespace Flag

def unresolved (key : String) (default : Bool) : Flag := ⟨key, default, none⟩

def logIl : Flag := unresolved Variables.logIl false

def callTarget : Flag := unresolved Variables.callTarget true

def isResolved (f : Flag) : Bool := f.value?.isSome

/-- The value of a flag, and the flag from here on. -/
def read (f : Flag) (env : Environment) : Logged (Bool × Flag) :=
  match f.value? with
  | some b => return (b, f)
  | none => do
    let b ← env.readBool f.key f.default
    return (b, { f with value? := some b })

def text (f : Flag) : String :=
  let state := match f.value? with
    | none => "<unresolved>"
    | some b => boolText b
  s!"CachedFlag({Text.quote f.key}, default={boolText f.default}, value={state})"

end Flag

end ProfilerBootstrap
