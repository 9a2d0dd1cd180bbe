import DocPages.Text.Point
/-!
# Comment bodies

The doc comments of a source text are its `/** ... */` blocks: from the left, the first `/**`,
then the first `*/` after it; the body is the text between them, and the search goes on after
the `*/`. So no body contains `*/`, `/**/` opens no comment, and `/***/` is an empty one. Each
body comes with the text after its closing `*/`, where its declaration is looked for.
-/

namespace DocPages.Comment

/-- The text after the first `/**`, if there is one. -/
def afterOpen? : List Point → Option (List Point)
  | .char '/' :: .char '*' :: .char '*' :: rest => some rest
  | _ :: rest => afterOpen? rest
  | [] => none

/-- The text up to the first `*/` and the text after it, if there is one; `acc` holds the
code points read so far, reversed. -/
def untilClose? (acc : List Point) : List Point → Option (List Point × List Point)
  | .char '*' :: .char '/' :: rest => some (acc.reverse, rest)
  | c :: rest => untilClose? (c :: acc) rest
  | [] => none

/-- The comment bodies of a text, each with the text after it, with `fuel` bounding their
number. -/
def bodiesAux : Nat → List Point → List (List Point × List Point)
  | 0, _ => []
  | fuel + 1, cs =>
    match afterOpen? cs with
    | none => []
    | some r =>
      match untilClose? [] r with
      | none => []
      | some (body, rest) => (body, rest) :: bodiesAux fuel rest

/-- The comment bodies of a text, each with the text after its closing `*/`. -/
def bodies (cs : List Point) : List (List Point × List Point) :=
  bodiesAux (cs.length + 1) cs

end DocPages.Comment
