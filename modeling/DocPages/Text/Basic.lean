import DocPages.Text.Classes
/-!
# Texts

A `Text` is a list of code points. A `String` literal is read as the text of its characters, so
the rules of this library are written with ordinary literals, and a text goes back to a `String`
only when it holds no surrogate.

The operations the documentation rules are written in are plain recursions on the list:
stripping whitespace, splitting into lines, into words and at a separator, finding, counting and
partitioning at a separator. Separators are matched left to right without overlap, so `count`
and `splitOn` agree: a text with `n` occurrences of a separator splits into `n + 1` pieces.
-/

namespace DocPages

/-- A text: a sequence of code points. -/
abbrev Text := List Point

namespace Text

/-- The text of a string's characters. -/
def ofString (s : String) : Text :=
  s.toList.map Point.char

instance : Coe String Text := ⟨ofString⟩

/-- The string of a text, unless it holds a surrogate. -/
def toString? (t : Text) : Option String :=
  (t.mapM Point.toChar?).map String.ofList

/-- The decimal digits of a natural. -/
def ofNat (n : Nat) : Text :=
  ofString (toString n)

/-- The decimal text of an integer, with a leading `-` when it is negative. -/
def ofInt (n : Int) : Text :=
  ofString (toString n)

/-- Code point order: lexicographic, a text before its extensions. -/
def le : Text → Text → Bool
  | [], _ => true
  | _ :: _, [] => false
  | a :: as, b :: bs => if a == b then le as bs else a.le b

/-- The texts joined with `sep` between each two. -/
def join (sep : Text) (ts : List Text) : Text :=
  sep.intercalate ts

/-! ### Whitespace -/

/-- The text without leading and trailing whitespace. -/
def strip (t : Text) : Text :=
  ((t.dropWhile isSpace).reverse.dropWhile isSpace).reverse

/-- The text without leading and trailing ASCII whitespace. -/
def stripAscii (t : Text) : Text :=
  ((t.dropWhile isAsciiSpace).reverse.dropWhile isAsciiSpace).reverse

/-- Words separated by runs of whitespace; `cur` holds the current word reversed. -/
def wordsAux (cur : Text) : Text → List Text
  | [] => if cur.isEmpty then [] else [cur.reverse]
  | c :: rest =>
    if isSpace c then
      if cur.isEmpty then wordsAux [] rest else cur.reverse :: wordsAux [] rest
    else wordsAux (c :: cur) rest

/-- The maximal runs of non-whitespace characters, in order. -/
def words (t : Text) : List Text :=
  wordsAux [] t

/-- The first word of a text, or the empty text when it has none. -/
def firstWord (t : Text) : Text :=
  (words t).headD []

/-! ### Lines -/

/-- Lines of a text; `cur` holds the current line reversed. -/
def linesAux (cur : Text) : Text → List Text
  | [] => if cur.isEmpty then [] else [cur.reverse]
  | .char '\r' :: .char '\n' :: rest => cur.reverse :: linesAux [] rest
  | c :: rest =>
    if isLineBreak c then cur.reverse :: linesAux [] rest else linesAux (c :: cur) rest

/-- The lines of a text without their breaks. A break at the very end starts no further
line, and the empty text has no lines. -/
def splitLines (t : Text) : List Text :=
  linesAux [] t

/-- Carriage returns and carriage return line feed pairs replaced by line feeds, as text
files are read. -/
def unifyNewlines : Text → Text
  | [] => []
  | .char '\r' :: .char '\n' :: rest => .char '\n' :: unifyNewlines rest
  | .char '\r' :: rest => .char '\n' :: unifyNewlines rest
  | c :: rest => c :: unifyNewlines rest

/-! ### Separators -/

/-- Pieces between occurrences of one code point; `cur` holds the current piece reversed. -/
def splitOnAux (sep : Point) (cur : Text) : Text → List Text
  | [] => [cur.reverse]
  | c :: rest =>
    if c == sep then cur.reverse :: splitOnAux sep [] rest
    else splitOnAux sep (c :: cur) rest

/-- The pieces between the occurrences of `sep`: one more piece than occurrences. -/
def splitOn (sep : Char) (t : Text) : List Text :=
  splitOnAux (.char sep) [] t

/-- Pieces between non-overlapping occurrences of a separator text. `skip` counts the
code points of a matched separator still to pass over; `cur` holds the current piece
reversed. -/
def splitOnSubAux (sep : Text) (skip : Nat) (cur : Text) : Text → List Text
  | [] => [cur.reverse]
  | c :: rest =>
    match skip with
    | k + 1 => splitOnSubAux sep k cur rest
    | 0 =>
      if !sep.isEmpty && sep.isPrefixOf (c :: rest) then
        cur.reverse :: splitOnSubAux sep (sep.length - 1) [] rest
      else splitOnSubAux sep 0 (c :: cur) rest

/-- The pieces between the non-overlapping occurrences of `sep`, found from the left. -/
def splitOnText (sep t : Text) : List Text :=
  splitOnSubAux sep 0 [] t

/-- Non-overlapping occurrences of a separator, counted from the left. -/
def countAux (sep : Text) (skip : Nat) : Text → Nat
  | [] => 0
  | c :: rest =>
    match skip with
    | k + 1 => countAux sep k rest
    | 0 =>
      if !sep.isEmpty && sep.isPrefixOf (c :: rest) then countAux sep (sep.length - 1) rest + 1
      else countAux sep 0 rest

/-- How many times `sep` occurs in `t`, without overlap, found from the left. -/
def count (sep t : Text) : Nat :=
  countAux sep 0 t

/-- Whether `sub` occurs in `t`. -/
def contains (t sub : Text) : Bool :=
  match t with
  | [] => sub.isEmpty
  | c :: rest => sub.isPrefixOf (c :: rest) || contains rest sub

/-- Whether `t` starts with `p`. -/
def startsWith (t p : Text) : Bool :=
  p.isPrefixOf t

/-- Whether `t` ends with `p`. -/
def endsWith (t p : Text) : Bool :=
  p.reverse.isPrefixOf t.reverse

/-- The text before and after the first occurrence of `sep`; `before` holds the code points
passed so far, reversed. -/
def breakAtAux (sep : Text) (before : Text) : Text → Option (Text × Text)
  | [] => if sep.isEmpty then some (before.reverse, []) else none
  | c :: rest =>
    if sep.isPrefixOf (c :: rest) then some (before.reverse, (c :: rest).drop sep.length)
    else breakAtAux sep (c :: before) rest

/-- The text before and after the first occurrence of `sep`, or `none` when it does not
occur. -/
def breakAt (sep t : Text) : Option (Text × Text) :=
  breakAtAux sep [] t

/-- Every non-overlapping occurrence of `pat`, from the left, replaced by `rep`. -/
def replaceAll (pat rep t : Text) : Text :=
  join rep (splitOnText pat t)

/-- The text without its last `n` code points. -/
def dropLastN (n : Nat) (t : Text) : Text :=
  t.take (t.length - n)

end Text

end DocPages
