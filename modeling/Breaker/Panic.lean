/-!
# Panics

Code handed in by a caller (an action, a classifier, a mapper, a listener) may
stop without an answer. It then leaves a text. So does a clock that is told to
run beyond its range.
-/

namespace Breaker

/-- How something that gave no answer stopped. -/
structure Panic where
  text : String
  deriving DecidableEq

/-- The end of the clock's range would be passed. -/
def Panic.clockOverflow : Panic := ⟨"overflow when adding duration to instant"⟩

end Breaker
