import ProfilerBootstrap.Flag
import ProfilerBootstrap.LogDirectory

namespace ProfilerBootstrap

/-- The flags of a process that are read only once. -/
structure Flags where
  logIl : Flag
  callTarget : Flag
  deriving DecidableEq, Repr

def Flags.initial : Flags := ⟨.logIl, .callTarget⟩

structure Settings where
  logTargets : List LogTarget
  logLevel : Level
  logDirectory : Path
  logDirectoryValid : Bool
  integrationsPath : Option String
  logIl : Bool
  callTargetEnabled : Bool
  enableInlining : Bool
  disableOptimizations : Bool
  deriving DecidableEq, Repr

namespace Settings

def read (env : Environment) (flags : Flags) (inlining : Bool)
    (directory : LogDirectory.Resolution) : Logged (Settings × Flags) := do
  let level ← env.logLevel .warn
  let (logIl, f) ← flags.logIl.read env
  let (callTarget, g) ← flags.callTarget.read env
  let inlining ← env.enableInlining inlining
  let noOptimizations ← env.disableOptimizations
  return (⟨env.logTargets, level, directory.path, directory.isValid, env.integrationsPath, logIl,
    callTarget, inlining, noOptimizations⟩, ⟨f, g⟩)

/-- The settings, with the flags and the file system from here on. -/
def load (env : Environment) (fs : FileSystem) (p : Platform) (flags : Flags) (inlining : Bool)
    (system : Option String) :
    FileSystem × Logged (Except FileSystem.Error (Settings × Flags)) :=
  match LogDirectory.resolve env fs p system with
  | (fs, ⟨.error e, records⟩) => (fs, ⟨.error e, records⟩)
  | (fs, ⟨.ok directory, records⟩) =>
    let found := read env flags inlining directory
    (fs, ⟨.ok found.value, records ++ found.records⟩)

end Settings

end ProfilerBootstrap
