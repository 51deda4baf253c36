import ProfilerBootstrap.Logging.Severity

namespace ProfilerBootstrap

structure LogRecord where
  severity : Severity
  message : String
  deriving DecidableEq, Repr

/-- A result and the records written until it was there, in order. -/
structure Logged (α : Type) where
  value : α
  records : List LogRecord
  deriving DecidableEq, Repr

namespace Logged

instance : Monad Logged where
  pure a := ⟨a, []⟩
  bind x f := ⟨(f x.value).value, x.records ++ (f x.value).records⟩

def write (s : Severity) (message : String) : Logged Unit := ⟨(), [⟨s, message⟩]⟩

def info (message : String) : Logged Unit := write .info message

def warning (message : String) : Logged Unit := write .warning message

theorem records_pure (a : α) : (pure a : Logged α).records = [] := rfl

theorem records_bind (x : Logged α) (f : α → Logged β) :
    (x >>= f).records = x.records ++ (f x.value).records := rfl

theorem value_bind (x : Logged α) (f : α → Logged β) : (x >>= f).value = (f x.value).value := rfl

end Logged

end ProfilerBootstrap
