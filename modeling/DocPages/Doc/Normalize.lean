import DocPages.Doc.Basic
import DocPages.Text.Basic
import DocPages.Log
/-!
# Owner normalisation

A symbol without an owner whose name is dotted, `Owner.rest`, is a member of `Owner`: its owner
becomes the text before the first dot and its name the text after it. A name that starts with a
dot, and a symbol that has an owner, are left as they are, so normalising twice is normalising
once, and the qualified name never changes.
-/

namespace DocPages

/-- The owner and the rest of a dotted name without an owner, if the owner is non-empty. -/
def Symbol.dottedOwner? (s : Symbol) : Option (Text × Text) :=
  if s.memberof.isEmpty then
    match Text.breakAt "." s.name with
    | some (owner, rest) => if owner.isEmpty then none else some (owner, rest)
    | none => none
  else none

/-- The symbol with a dotted name split into owner and name. -/
def Symbol.normalize (s : Symbol) : Symbol :=
  match s.dottedOwner? with
  | some (owner, rest) => { s with memberof := owner, name := rest }
  | none => s

/-- Whether normalising changes the symbol's owner or name. -/
def Symbol.normalizes (s : Symbol) : Bool :=
  s.normalize.memberof != s.memberof || s.normalize.name != s.name

/-- The file with every symbol normalised. -/
def SourceFile.normalize (f : SourceFile) : SourceFile :=
  { f with symbols := f.symbols.map Symbol.normalize }

/-- Every file normalised. -/
def normalizeFiles (files : List SourceFile) : List SourceFile :=
  files.map SourceFile.normalize

/-- How many symbols normalising changes. -/
def normalizedCount (files : List SourceFile) : Nat :=
  (files.flatMap (·.symbols)).countP Symbol.normalizes

/-- The debug records of normalising, one per changed symbol. -/
def normalizeLog (files : List SourceFile) : List LogRecord :=
  (files.flatMap (·.symbols)).filterMap fun s =>
    (s.dottedOwner?).map fun (owner, rest) =>
      LogRecord.debug .normalizer (Text.ofString "Normalized " ++ s.name ++ " -> memberof=" ++ owner ++
        " name=" ++ rest)

end DocPages
