import ProfilerBootstrap.Logging.Logger

namespace ProfilerBootstrap

/-- What a host has of logging: the logger, and the handles that it was given, the newest one last.
-/
structure Host where
  logger : Logger
  handles : List LogHandle

namespace Host

/-- What a host does. Handles go by their place in the order in which they were given. -/
inductive Step
  | install (c : LogConfig)
  | initialise (env : Environment) (p : Platform) (process : String) (pid : Int)
    (system : Option String)
  | shutdown (n : Nat)
  | flush (n : Nat)
  | log (now : String) (r : LogRecord)

def Step.setsUp : Step → Bool
  | install _ | initialise .. => true
  | shutdown _ | flush _ | log .. => false

/-- Shuts a handle down; one that was never given changes nothing. -/
def shutdown (s : Host) (n : Nat) : Host :=
  match s.handles[n]? with
  | none => s
  | some h =>
    let (h, l) := h.shutdown s.logger
    ⟨l, s.handles.set n h⟩

def log (s : Host) (now : String) (r : LogRecord) : Host :=
  { s with logger := { s.logger with now := now }.emit r }

def keep (s : Host) (given : Logger × Except ε LogHandle) : Except ε Host :=
  given.2.map fun h => ⟨given.1, s.handles ++ [h]⟩

/-- What a step makes of a host, unless logging cannot be set up. Lines are written at once, so
there is nothing to flush. -/
def step (s : Host) : Step → Except LoggingError Host
  | .install c => (s.keep (c.install s.logger)).mapError .file
  | .initialise env p process pid system =>
    s.keep (s.logger.initialise env p process pid system)
  | .shutdown n => .ok (s.shutdown n)
  | .flush _ => .ok s
  | .log now r => .ok (s.log now r)

/-- One step after the other, as long as each of them can be done. -/
def run (s : Host) : List Step → Except LoggingError Host
  | [] => .ok s
  | st :: rest => s.step st >>= fun s => s.run rest

theorem exists_of_isOk {x : Except ε α} (h : x.isOk = true) : ∃ a, x = .ok a := by
  cases x with
  | error e => cases h
  | ok a => exact ⟨a, rfl⟩

theorem run_cons_ok {s s' : Host} {st : Step} {rest : List Step}
    (h : s.run (st :: rest) = .ok s') : ∃ t, s.step st = .ok t ∧ t.run rest = .ok s' := by
  rw [run] at h
  cases ht : s.step st with
  | error e => simp [ht, bind, Except.bind] at h
  | ok t =>
    rw [ht] at h
    exact ⟨t, rfl, h⟩

theorem run_append_ok {s s' : Host} {first rest : List Step}
    (h : s.run (first ++ rest) = .ok s') : ∃ t, s.run first = .ok t ∧ t.run rest = .ok s' := by
  induction first generalizing s with
  | nil => exact ⟨s, rfl, h⟩
  | cons st first ih =>
    obtain ⟨t, ht, hrest⟩ := run_cons_ok h
    obtain ⟨u, hu, hs'⟩ := ih hrest
    refine ⟨u, ?_, hs'⟩
    rw [run, ht]
    exact hu

end Host

end ProfilerBootstrap
