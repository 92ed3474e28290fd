/-!
# Docdown.Log

Log entries and the lines they are written as.  An entry has a level, a message
and any number of values to go with it.
-/

namespace Docdown.Log

inductive Level where
  | debug | info | warn | error
deriving DecidableEq, Repr

/-- What marks a level in a line. -/
def Level.marker : Level → String
  | .debug | .info => ""
  | .warn => "\u26A0\uFE0F  "
  | .error => "\u274C "

/-- Something to be logged. -/
structure Entry (α : Type) where
  level : Level
  message : String
  values : List α := []
deriving DecidableEq, Repr

/-- The line of an entry, its values apart. -/
def Entry.line (e : Entry α) : String := "[doxygen-md] " ++ e.level.marker ++ e.message

/-- Who takes the entries: one who writes nothing, or one who writes all of them
except, unless verbose, those for debugging. -/
inductive Logger where
  | silent
  | writing (verbose : Bool)
deriving DecidableEq, Repr

namespace Logger

/-- Whether a logger writes the entries of a level. -/
def writes : Logger → Level → Bool
  | .silent, _ => false
  | .writing verbose, l => verbose || l != .debug

/-- The entries a logger writes, in order. -/
def kept (g : Logger) (es : List (Entry α)) : List (Entry α) := es.filter fun e => g.writes e.level

@[simp] theorem kept_nil (g : Logger) : g.kept ([] : List (Entry α)) = [] := rfl

@[simp] theorem kept_append (g : Logger) (es fs : List (Entry α)) :
    g.kept (es ++ fs) = g.kept es ++ g.kept fs := by
  simp [kept]

/-- A silent logger writes nothing, and a verbose one everything. -/
theorem kept_silent (es : List (Entry α)) : Logger.silent.kept es = [] := by
  simp [kept, writes]

theorem kept_verbose (es : List (Entry α)) : (Logger.writing true).kept es = es := by
  simp [kept, writes]

end Logger

end Docdown.Log
