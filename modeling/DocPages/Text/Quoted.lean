import DocPages.Text.Basic
/-!
# Quoted strings

A text written as a quoted literal, the way log messages and error messages show a name:
between single quotes, or between double quotes when the text holds a single quote and no
double quote. Backslash, the chosen quote, tab, line feed and carriage return are escaped with a
backslash; other ASCII controls and every code point that is not printable (a surrogate among
them) are written as a hexadecimal escape of two, four or eight digits.
-/

namespace DocPages.Text

/-- Lowercase hexadecimal digits of `n`, padded with zeros to `width`. -/
def hexDigits (width n : Nat) : Text :=
  let ds := Nat.toDigits 16 n
  (List.replicate (width - ds.length) '0' ++ ds).map Point.char

/-- One code point inside a literal quoted with `q`. -/
def quotePoint (q : Point) (c : Point) : Text :=
  let n := c.code
  if c == q || c == .char '\\' then [.char '\\', c]
  else if n == 9 then "\\t"
  else if n == 10 then "\\n"
  else if n == 13 then "\\r"
  else if n < 0x20 || n == 0x7F then ofString "\\x" ++ hexDigits 2 n
  else if n < 0x7F || isPrintable c then [c]
  else if n ≤ 0xFF then ofString "\\x" ++ hexDigits 2 n
  else if n ≤ 0xFFFF then ofString "\\u" ++ hexDigits 4 n
  else ofString "\\U" ++ hexDigits 8 n

/-- The quote a literal of `t` uses: a double quote exactly when `t` holds a single quote
and no double quote. -/
def quoteFor (t : Text) : Point :=
  if t.any (·.code == 0x27) && !t.any (· == .char '"') then .char '"'
  else .char (Char.ofNat 0x27)

/-- The text as a quoted literal. -/
def quoted (t : Text) : Text :=
  let q := quoteFor t
  q :: (t.flatMap (quotePoint q) ++ [q])

end DocPages.Text
