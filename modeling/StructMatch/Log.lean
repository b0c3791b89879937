/-!
# Logs

A computation may leave log lines behind.  They never influence its result.
-/

namespace StructMatch

/-- How much a log line matters. -/
inductive LogLevel where
  | error
  | warn
  | info
  | debug
deriving DecidableEq

/-- A level as it is written. -/
def LogLevel.text : LogLevel → String
  | error => "ERROR"
  | warn => "WARN"
  | info => "INFO"
  | debug => "DEBUG"

/-- A line of a log. -/
structure LogLine where
  level : LogLevel
  message : String
deriving DecidableEq

/-- A result with the log lines that led to it. -/
structure Logged (α : Type) where
  result : α
  log : List LogLine := []

namespace Logged

instance : Monad Logged where
  pure a := ⟨a, []⟩
  bind a f := ⟨(f a.result).result, a.log ++ (f a.result).log⟩

/-- Leaves one line behind. -/
def line (level : LogLevel) (message : String) : Logged Unit := ⟨(), [⟨level, message⟩]⟩

@[simp] theorem result_pure {α : Type} (a : α) : (pure a : Logged α).result = a := rfl

@[simp] theorem result_bind {α β : Type} (a : Logged α) (f : α → Logged β) :
    (a >>= f).result = (f a.result).result := rfl

end Logged

end StructMatch
