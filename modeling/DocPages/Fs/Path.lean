import DocPages.Text.Quoted
/-!
# Paths

A path is read the way a POSIX path library reads it: a leading `/` makes it absolute (two
leading slashes are kept as a root of their own, more count as one), empty segments and `.`
segments are dropped, and `..` segments are kept as written. Joining with an absolute path gives
that path. A path is written back with single slashes after its root, and the empty relative
path as `.`. Paths compare by root and segments, so `a//b/` and `a/b` are one path.
-/

namespace DocPages

/-- The root a path starts from. -/
inductive PathRoot where
  /-- No root: the path is relative. -/
  | none
  /-- `/`. -/
  | slash
  /-- `//`, which a path keeps apart from `/`. -/
  | doubleSlash
  deriving Repr, DecidableEq, Inhabited

/-- How a root is written. -/
def PathRoot.text : PathRoot → Text
  | .none => []
  | .slash => "/"
  | .doubleSlash => "//"

/-- A path: its root and its segments, none empty and none `.`. -/
structure PurePath where
  /-- Where the path starts. -/
  root : PathRoot := .none
  /-- The segments, in order. -/
  parts : List Text := []
  deriving Repr, DecidableEq, Inhabited

namespace PurePath

/-- An absolute path from `/`. -/
def abs (parts : List Text) : PurePath :=
  { root := .slash, parts }

/-- Whether the path has a root. -/
def isAbsolute (p : PurePath) : Bool :=
  p.root != .none

/-- The path a text names. -/
def ofText (t : Text) : PurePath :=
  let lead := (t.takeWhile (· == .char '/')).length
  { root := if lead == 0 then .none else if lead == 2 then .doubleSlash else .slash,
    parts := (Text.splitOn '/' t).filter fun p => !p.isEmpty && p != "." }

/-- The path written with single slashes after its root; the empty relative path is `.`. -/
def toText (p : PurePath) : Text :=
  if p.root == .none && p.parts.isEmpty then "."
  else p.root.text ++ Text.join "/" p.parts

/-- `p / q`: `q` when it has a root, else `q`'s segments after `p`'s. -/
def join (p q : PurePath) : PurePath :=
  if q.isAbsolute then q else { p with parts := p.parts ++ q.parts }

/-- The path with one more segment, when `name` is a plain name. -/
def child (p : PurePath) (name : Text) : PurePath :=
  p.join (ofText name)

/-- The last segment, or the empty text for a path without segments. -/
def name (p : PurePath) : Text :=
  p.parts.getLastD []

/-- The path without its last segment; a path without segments is its own parent. -/
def parent (p : PurePath) : PurePath :=
  { p with parts := p.parts.dropLast }

/-- The segments of `p` after those of `base`, when `p` starts with `base`. -/
def relativeTo? (p base : PurePath) : Option PurePath :=
  if p.root == base.root && base.parts.isPrefixOf p.parts then
    some { parts := p.parts.drop base.parts.length }
  else none

/-- The path written as a quoted literal inside the name of its kind, as a path object is
shown: `PosixPath('a/b')`. -/
def shown (p : PurePath) : Text :=
  Text.ofString "PosixPath(" ++ Text.quoted p.toText ++ ")"

/-- The root, when there is one, and the segments: what paths are ordered by. -/
def sortKey (p : PurePath) : List Text :=
  (if p.isAbsolute then [p.root.text] else []) ++ p.parts

/-- Segment-wise order: lexicographic on the segments, a list before its extensions. -/
def segmentsLe : List Text → List Text → Bool
  | [], _ => true
  | _ :: _, [] => false
  | x :: xs, y :: ys => if x == y then segmentsLe xs ys else Text.le x y

/-- Whether `a` sorts before or with `b`: root and segments, one by one in code point order, a
path before the paths below it. -/
def le (a b : PurePath) : Bool :=
  segmentsLe a.sortKey b.sortKey

/-! ### Home directories -/

/-- Where the system says users' home directories are: the current user's (`$HOME` when it is
set, else the user's own account entry) and every account's, by user name. -/
structure Homes where
  /-- The current user's home directory, when the system can tell it. -/
  own : Option Text := none
  /-- The home directory of each account, by user name. -/
  accounts : List (Text × Text) := []
  deriving Repr, DecidableEq, Inhabited

/-- The home directory of the user named, the empty name standing for the current user, with
its trailing slashes dropped; a directory of slashes only is the root. -/
def Homes.lookup (h : Homes) (user : Text) : Option Text :=
  let dir := if user.isEmpty then h.own else (h.accounts.find? (·.1 == user)).map (·.2)
  dir.map fun d =>
    let d := (d.reverse.dropWhile (· == .char '/')).reverse
    if d.isEmpty then "/" else d

/-- The path with a first segment `~` or `~user` replaced by that user's home directory;
`none` when the user's home is unknown or itself starts with `~`. Only a relative path is
expanded. -/
def expandUser (homes : Homes) (p : PurePath) : Option PurePath :=
  match p.root, p.parts with
  | .none, (.char '~' :: user) :: rest =>
    match homes.lookup user with
    | some home =>
      if home.head? == some (.char '~') then none else some ((ofText home).join { parts := rest })
    | none => none
  | _, _ => some p

end PurePath

/-- The message of a path whose home directory is unknown. -/
def homeErrorMessage : Text :=
  "Could not determine home directory."

end DocPages
