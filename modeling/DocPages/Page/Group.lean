import DocPages.Doc.Basic
import DocPages.Text.Basic
/-!
# Page groups

Symbols are documented on pages by group. An owner is grouped two levels deep: `a.b.c.d` and
`a.b` share the group `a.b`. Within a file the owner sticks: once a symbol has named one, every
later symbol of the file without an owner joins that owner's group. A symbol before any owner
forms the group `.name` (its empty owner, a dot and its name).
-/

namespace DocPages

/-- The group of an owner: its first two dot-separated segments. -/
def groupNameFor (memberof : Text) : Text :=
  match Text.splitOn '.' memberof with
  | a :: b :: _ :: _ => a ++ "." ++ b
  | _ => memberof

/-- The running group of one file: the current group name and the last owner seen. -/
structure Accumulator where
  /-- The group of the last symbol. -/
  name : Text := "global"
  /-- The last non-empty owner seen, or empty. -/
  memberof : Text := []
  deriving Repr, DecidableEq, Inhabited

namespace Accumulator

/-- The state after symbol `s`; its `name` is the group of `s`. -/
def advance (acc : Accumulator) (s : Symbol) : Accumulator :=
  let memberof := if s.memberof.isEmpty then acc.memberof else s.memberof
  { name := if memberof.isEmpty then s.memberof ++ "." ++ s.name else groupNameFor memberof,
    memberof }

/-- The states after each symbol, starting from `acc`. -/
def steps (acc : Accumulator) : List Symbol → List Accumulator
  | [] => []
  | s :: rest =>
    let next := acc.advance s
    next :: next.steps rest

end Accumulator

/-- The group of each symbol of a file, by a fresh accumulator. -/
def groupsOf (symbols : List Symbol) : List Text :=
  (({} : Accumulator).steps symbols).map (·.name)

end DocPages
