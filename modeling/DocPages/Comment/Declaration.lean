import DocPages.Text.Basic
/-!
# Declarations

A doc comment documents the declaration on the first non-blank line after it, unless that line
opens another comment. The declared name is read from a function declaration
`function name(` or from an assignment `[var|let|const] name = ...`, where a name is a run of
word characters, `$` and `.`; an assignment declares a function when `function` stands as a
word right after the `=`.
-/

namespace DocPages.Comment

open Text

/-- The stripped first non-blank line of a text, or nothing when it opens a comment or there
is none. -/
def nextDeclaration (after : Text) : Text :=
  match ((splitLines after).map strip).find? (!·.isEmpty) with
  | some line => if startsWith line "/*" then [] else line
  | none => []

/-- Characters of a declared name. -/
def isNameChar (c : Point) : Bool :=
  isWordChar c || c == .char '$' || c == .char '.'

/-- `function`, whitespace, a name, optional whitespace and `(`: the name. -/
def functionName? (line : Text) : Option Text :=
  if startsWith line "function" then
    let rest := line.drop 8
    if (rest.takeWhile isSpace).isEmpty then none
    else
      let r := rest.dropWhile isSpace
      let name := r.takeWhile isNameChar
      match (r.dropWhile isNameChar).dropWhile isSpace with
      | .char '(' :: _ => if name.isEmpty then none else some name
      | _ => none
  else none

/-- Whether a text starts with the word `function`. -/
def startsWithFunctionWord (r : Text) : Bool :=
  startsWith r "function" &&
    match r.drop 8 with
    | c :: _ => !isWordChar c
    | [] => true

/-- A name, optional whitespace and `=`: the name, and whether `function` follows as a word. -/
def assignedName? (r : Text) : Option (Text × Bool) :=
  let name := r.takeWhile isNameChar
  match (r.dropWhile isNameChar).dropWhile isSpace with
  | .char '=' :: r =>
    if name.isEmpty then none else some (name, startsWithFunctionWord (r.dropWhile isSpace))
  | _ => none

/-- An assignment after the keyword `kw` and whitespace. -/
def keywordAssignment? (kw : Text) (line : Text) : Option (Text × Bool) :=
  if startsWith line kw then
    let rest := line.drop kw.length
    if (rest.takeWhile isSpace).isEmpty then none else assignedName? (rest.dropWhile isSpace)
  else none

/-- The name a declaration line declares and whether it declares a function. -/
def declaredName (line : Text) : Option (Text × Bool) :=
  match functionName? line with
  | some name => some (name, true)
  | none =>
    (keywordAssignment? "var" line).orElse fun _ =>
      (keywordAssignment? "let" line).orElse fun _ =>
        (keywordAssignment? "const" line).orElse fun _ => assignedName? line

end DocPages.Comment
