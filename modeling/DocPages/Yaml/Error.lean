import DocPages.Yaml.Timestamp
import DocPages.Decimal.Numeral
import DocPages.Stack
/-!
# Why YAML does not load

Loading a YAML stream fails either because the stream is malformed, which covers every fault of
its characters, tokens, events or nodes and every tag that has no constructor, or because a
value cannot be built from a well-formed node. The second kind keeps its cause, since each is
reported in its own words: a numeral, an escape beyond the last code point, an empty number, an
unknown truth word, a text that is no timestamp, a date or time out of range, or nesting deeper
than the loader's stack can follow.

The loader runs on the call stack of `Stack`: each of its steps says at what depth its frame
stands (`enter`), and each record it makes, a position mark, a token, an event or a node, takes
the frame of the making and the frame of the record's own set-up (`makeFrom`).
-/

namespace DocPages.Yaml

/-- Why a YAML stream does not load. -/
inductive LoadError where
  /-- The stream is malformed, or a node has no constructor. -/
  | malformed
  /-- An escape names a code point beyond `U+10FFFF`. -/
  | codePoint
  /-- A numeral cannot be read or written. -/
  | numeral (e : Numeral.NumeralError)
  /-- A number node is empty, with at most a sign. -/
  | emptyNumber
  /-- A truth value node holds a word that is no truth value, shown in lower case. -/
  | unknownBool (word : Text)
  /-- A timestamp node does not have the form of a timestamp. -/
  | notTimestamp
  /-- A timestamp node is a mapping rather than text. -/
  | timestampOfList
  /-- A timestamp names no date or time. -/
  | date (e : DateError)
  /-- A call of kind `call` would take the loader's stack past its limit. -/
  | tooDeep (call : Stack.Call)
  deriving Repr, DecidableEq, Inhabited

/-- The error's message. A malformed stream is described only as such: what the fault is and
where it stands are not kept. -/
def LoadError.message : LoadError → Text
  | .malformed => "malformed YAML"
  | .codePoint => "chr() arg not in range(0x110000)"
  | .numeral e => e.message
  | .emptyNumber => "string index out of range"
  | .unknownBool w => Text.quoted w
  | .notTimestamp => "'NoneType' object has no attribute 'groupdict'"
  | .timestampOfList => "expected string or bytes-like object, got 'list'"
  | .date e => e.message
  | .tooDeep c => Text.ofString c.overflowMessage

/-- A result of loading. -/
abbrev LoadResult (α : Type) := Except LoadError α

/-- Enters a call of kind `call` whose frame stands at `depth`; past the stack's limit loading
stops. -/
def enter (depth : Nat) (call : Stack.Call) : LoadResult Unit :=
  if Stack.fits depth then .ok () else .error (.tooDeep call)

/-- A record made by a step at `depth`: the making, one frame up, and the record's set-up above
it. -/
def makeFrom (depth : Nat) : LoadResult Unit := do
  enter (depth + 1) .make
  enter (depth + 2) .step

/-- A position mark taken by a step at `depth`: the step that takes it, and the mark it makes. -/
def markFrom (depth : Nat) : LoadResult Unit := do
  enter (depth + 1) .step
  makeFrom (depth + 1)

theorem enter_ok_iff (depth : Nat) (call : Stack.Call) :
    enter depth call = .ok () ↔ depth ≤ Stack.limit := by
  unfold enter
  split <;> simp_all [Stack.fits]

end DocPages.Yaml
