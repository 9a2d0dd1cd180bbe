import DocPages.Text.Basic
/-!
# Documented symbols

The records a documentation run works on. A `Symbol` is one documented function, property or
object: its name, the owner it is a member of, its doc comment and whether it is a function.
Its qualified name `owner.name` (or just the name without an owner) is the anchor its
documentation carries on its page. Symbols come in `SourceFile`s, and a run takes a
`FileGroup`, the files in the order they were given.
-/

namespace DocPages

/-- A documentation tag such as `@see res.write`: its title and the text after it. -/
structure Tag where
  /-- The tag name, such as `see` or `param`. -/
  title : Text := []
  /-- The text of the tag. -/
  desc : Text := []
  deriving Repr, DecidableEq, Inhabited

/-- A parsed documentation comment: the description and the tags, in order. -/
structure DocComment where
  /-- The text before the first tag. -/
  desc : Text := []
  /-- The tags, in order. -/
  tags : List Tag := []
  deriving Repr, DecidableEq, Inhabited

/-- The tags with title `t`, in order. -/
def DocComment.tagsTitled (d : DocComment) (t : Text) : List Tag :=
  d.tags.filter (·.title == t)

/-- One documented function, property or object. -/
structure Symbol where
  /-- The name, relative to the owner. -/
  name : Text := []
  /-- The owner the symbol is a member of, or empty. -/
  memberof : Text := []
  /-- The doc comment. -/
  doc : DocComment := {}
  /-- Whether the symbol is a function. -/
  isFunction : Bool := false
  /-- The HTML of the symbol's resolved references, once rendered. -/
  renderedSeeTags : List Text := []
  deriving Repr, DecidableEq, Inhabited

/-- `owner.name`, or the name alone for a symbol without an owner. -/
def Symbol.qualifiedName (s : Symbol) : Text :=
  if s.memberof.isEmpty then s.name else s.memberof ++ "." ++ s.name

/-- A source file and the symbols documented in it, in order. -/
structure SourceFile where
  /-- The path or label the file is documented under. -/
  path : Text := []
  /-- The documented symbols, in order. -/
  symbols : List Symbol := []
  /-- The file overview text, or empty. -/
  overview : Text := []
  deriving Repr, DecidableEq, Inhabited

/-- All files of one documentation run, in order. -/
structure FileGroup where
  /-- The files, in the order they were given. -/
  files : List SourceFile := []
  deriving Repr, DecidableEq, Inhabited

/-- Every symbol of every file, in order. -/
def FileGroup.symbols (g : FileGroup) : List Symbol :=
  g.files.flatMap (·.symbols)

end DocPages
