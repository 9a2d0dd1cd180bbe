import DocPages.Comment.Body
import DocPages.Comment.Block
import DocPages.Comment.Declaration
import DocPages.Log
/-!
# Symbols of a source text

Each doc comment of a text plays one role. A comment with an `ignore` tag is skipped. A
comment with a `fileoverview` tag gives the file its overview (a later one replaces an earlier
one). Any other comment documents a symbol: its name is the first word of its `name` tag when
that has text, else the declared name; `Owner.prototype.member` becomes `Owner.member`; its owner
is the first word of its first `memberof` tag, which is also removed from the front of the name;
it is a function when its declaration says so or it has a `param`, `returns`, `return` or
`constructor` tag. A comment with no name documents nothing.
-/

namespace DocPages.Comment

open Text

/-- The role a doc comment plays in its file. -/
inductive Role where
  /-- Skipped by an `ignore` tag. -/
  | ignored
  /-- The file overview. -/
  | overview (text : Text)
  /-- A documented symbol. -/
  | symbol (s : Symbol)
  /-- A comment with no name to document. -/
  | undeclared

/-- Tags that make a symbol a function. -/
def functionTags : List Text := ["param", "returns", "return", "constructor"]

/-- The first word of the text of the first tag titled `t`, when that text is non-empty. -/
def firstTagWord? (doc : DocComment) (t : Text) : Option Text :=
  match doc.tagsTitled t with
  | tag :: _ => if tag.desc.isEmpty then none else some (firstWord tag.desc)
  | [] => none

/-- The name a doc comment states: the first word of its first `name` tag when that has text,
else the name its declaration line declares, else none. -/
def statedName (doc : DocComment) (declaration : Text) : Text :=
  (firstTagWord? doc "name").getD
    (match declaredName declaration with
      | some (n, _) => n
      | none => [])

/-- `Owner.prototype.member` read as `Owner.member`, at the first `.prototype.`. -/
def unprototype (name : Text) : Text :=
  match breakAt ".prototype." name with
  | some (owner, m) => owner ++ "." ++ m
  | none => name

/-- The name without a leading `owner.`, for a non-empty owner. -/
def dropOwner (memberof name : Text) : Text :=
  if !memberof.isEmpty && startsWith name (memberof ++ ".") then
    name.drop (memberof.length + 1)
  else name

/-- The symbol a doc comment documents, given its declaration line. -/
def buildSymbol (doc : DocComment) (declaration : Text) : Option Symbol :=
  let name := statedName doc declaration
  if name.isEmpty then none
  else
    let memberof := (firstTagWord? doc "memberof").getD []
    let isFunction := (match declaredName declaration with
      | some (_, f) => f
      | none => false) || doc.tags.any (functionTags.contains ·.title)
    some { name := dropOwner memberof (unprototype name), memberof, doc, isFunction }

/-- The role of a comment with body `body`, followed by the text `after`. -/
def role (body after : Text) : Role :=
  let doc := parseBody body
  if !(doc.tagsTitled "ignore").isEmpty then .ignored
  else match doc.tagsTitled "fileoverview" with
    | t :: _ => .overview t.desc
    | [] =>
      match buildSymbol doc (nextDeclaration after) with
      | some s => .symbol s
      | none => .undeclared

/-- The roles of the doc comments of a text, in order. -/
def roles (text : Text) : List Role :=
  (bodies text).map fun (body, after) => role body after

/-- The file a role leaves, from the file before it. -/
def applyRole (f : SourceFile) : Role → SourceFile
  | .overview text => { f with overview := text }
  | .symbol s => { f with symbols := f.symbols ++ [s] }
  | _ => f

/-- The documented file of a source text labelled `path`. -/
def parseSource (text path : Text) : SourceFile :=
  (roles text).foldl applyRole { path }

/-- The debug records of reading a source text labelled `path`. -/
def parseLog (text path : Text) : List LogRecord :=
  let shown := if path.isEmpty then Text.ofString "<text>" else path
  let rs := roles text
  let skipped := rs.filterMap fun
    | .undeclared => some (LogRecord.debug .parser (Text.ofString "Skipping undeclared comment in " ++ shown))
    | _ => none
  let count := rs.countP fun
    | .symbol _ => true
    | _ => false
  skipped ++ [LogRecord.debug .parser (Text.ofString "Parsed " ++ ofNat count ++ " symbols from " ++ shown)]

end DocPages.Comment
