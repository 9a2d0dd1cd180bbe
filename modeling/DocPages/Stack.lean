/-!
# The call stack

The readers of this library descend into nested input the way a recursive reader calls itself,
and the stack their calls run on holds at most `limit` frames. The frames of a reader's callers
count too: whoever calls a reader says at what depth it starts, and that depth decides how deep
its input may nest.

A call that would go past the limit fails, and the failure names the kind of call it was: a
step of the reader, or the making of an object, which the stack reports as the call of an
object. Only the first call past the limit matters, so a reader checks each call when it makes
it, and of several faults the one met first is reported.
-/

namespace DocPages.Stack

/-- The most frames the stack holds. -/
def limit : Nat := 1000

/-- A kind of call that takes a frame. -/
inductive Call where
  /-- A step of the reader itself. -/
  | step
  /-- The making of an object, or a call the stack sees as one. -/
  | make
  deriving Repr, DecidableEq, Inhabited

/-- The message of a stack that a call of this kind would take past the limit. -/
def Call.overflowMessage : Call → String
  | .step => "maximum recursion depth exceeded"
  | .make => "maximum recursion depth exceeded while calling a Python object"

/-- Whether a call whose frame is at `depth` fits on the stack. -/
def fits (depth : Nat) : Bool := depth ≤ limit

/-- The room a reader starting at `depth` has for nested frames of its own. -/
def room (depth : Nat) : Nat := limit - depth

theorem fits_iff (depth : Nat) : fits depth = true ↔ depth ≤ limit := by
  simp [fits]

end DocPages.Stack
