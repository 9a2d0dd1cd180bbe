import DocPages.Json.Value
import DocPages.Text.Quoted
/-!
# Writing JSON

JSON text for a value, with every character outside printable ASCII escaped: the two-letter
escapes for quote, backslash, backspace, form feed, line feed, carriage return and tab, and
`\uXXXX` with lowercase digits for the rest, a character beyond the basic plane as its two
surrogate code units. `render` writes a value on one line; `pretty` indents nested members by
a fixed number of spaces, one member a line, with `": "` after keys and `{}` or `[]` for empty
containers.
-/

namespace DocPages.Json

/-- The escape `\uXXXX` of a code unit, with lowercase digits. -/
def unitEscape (u : Nat) : Text :=
  Text.ofString "\\u" ++ Text.hexDigits 4 u

/-- One code point inside a string literal; a lone surrogate is written as its own code
unit. -/
def escapePoint (c : Point) : Text :=
  let n := c.code
  if c == .char '"' then "\\\""
  else if c == .char '\\' then "\\\\"
  else if n == 10 then "\\n"
  else if n == 13 then "\\r"
  else if n == 9 then "\\t"
  else if n == 8 then "\\b"
  else if n == 12 then "\\f"
  else if 0x20 ≤ n && n < 0x7F then [c]
  else if n < 0x10000 then unitEscape n
  else
    let v := n - 0x10000
    unitEscape (0xD800 + v / 0x400) ++ unitEscape (0xDC00 + v % 0x400)

/-- A string literal. -/
def quote (s : Text) : Text :=
  .char '"' :: (s.flatMap escapePoint ++ [.char '"'])

/-- A number written as JSON: integers in full, floats by their shortest decimal, and the
three constants by name. -/
def numberText : Binary64 → Text
  | .nan => "NaN"
  | .infinite negative => if negative then "-Infinity" else "Infinity"
  | x => x.repr

mutual

/-- The value on one line. -/
def render : Json → Text
  | null => "null"
  | bool b => if b then "true" else "false"
  | int n => Text.ofInt n
  | float x => numberText x
  | str s => quote s
  | arr items => .char '[' :: renderItems items ++ "]"
  | obj fields => Text.ofString "\x7b" ++ renderFields fields ++ "\x7d"

/-- Array elements on one line, separated by commas. -/
def renderItems : List Json → Text
  | [] => []
  | [v] => render v
  | v :: rest => render v ++ ", " ++ renderItems rest

/-- Object fields on one line, separated by commas. -/
def renderFields : List (Text × Json) → Text
  | [] => []
  | [(k, v)] => quote k ++ ": " ++ render v
  | (k, v) :: rest => quote k ++ ": " ++ render v ++ ", " ++ renderFields rest

end

/-- Spaces for depth `depth` with `step` spaces a level. -/
def indentText (step depth : Nat) : Text :=
  List.replicate (step * depth) (.char ' ')

mutual

/-- The value with nested members indented by `step` spaces, starting at depth `depth`. -/
def prettyAt (step depth : Nat) : Json → Text
  | arr [] => "[]"
  | obj [] => "\x7b\x7d"
  | arr items =>
    Text.ofString "[\n" ++ prettyItems step (depth + 1) items ++ "\n" ++ indentText step depth ++ "]"
  | obj fields =>
    Text.ofString "\x7b\n" ++ prettyFields step (depth + 1) fields ++ "\n" ++ indentText step depth ++ "\x7d"
  | null => "null"
  | bool b => if b then "true" else "false"
  | int n => Text.ofInt n
  | float x => numberText x
  | str s => quote s

/-- Array elements one a line at depth `depth`. -/
def prettyItems (step depth : Nat) : List Json → Text
  | [] => []
  | [v] => indentText step depth ++ prettyAt step depth v
  | v :: rest => indentText step depth ++ prettyAt step depth v ++ ",\n" ++ prettyItems step depth rest

/-- Object fields one a line at depth `depth`. -/
def prettyFields (step depth : Nat) : List (Text × Json) → Text
  | [] => []
  | [(k, v)] => indentText step depth ++ quote k ++ ": " ++ prettyAt step depth v
  | (k, v) :: rest =>
    indentText step depth ++ quote k ++ ": " ++ prettyAt step depth v ++ ",\n" ++
      prettyFields step depth rest

end

/-- The value with nested members indented by `step` spaces. -/
def pretty (step : Nat) (v : Json) : Text :=
  prettyAt step 0 v

end DocPages.Json
