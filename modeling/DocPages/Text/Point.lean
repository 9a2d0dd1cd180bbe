/-!
# Code points

A text is a sequence of Unicode code points. Nearly all of them are characters (scalar values),
but a text can also hold a surrogate code point `U+D800`..`U+DFFF` on its own: an escape such as
`\udfff` in JSON or YAML source makes one. A surrogate is kept, compared and written back like any
other code point; only no encoding form can write it as bytes. So a code point is a character or
a surrogate, and its number orders code points the way texts are sorted.
-/

namespace DocPages

/-- A code point: a character, or a surrogate `U+D800`..`U+DFFF` standing alone. -/
inductive Point where
  /-- A character, that is a scalar value. -/
  | char (c : Char)
  /-- A surrogate code point, by its number. -/
  | surrogate (code : Nat)
  deriving DecidableEq, Repr, Inhabited

namespace Point

instance : Coe Char Point := ⟨Point.char⟩

/-- The number of the code point. -/
def code : Point → Nat
  | char c => c.toNat
  | surrogate n => n

/-- Whether a number is a surrogate code point. -/
def isSurrogateCode (n : Nat) : Bool :=
  0xD800 ≤ n && n ≤ 0xDFFF

/-- The code point numbered `n`, for `n` below `0x110000`. -/
def ofCode (n : Nat) : Point :=
  if isSurrogateCode n then surrogate n else char (Char.ofNat n)

/-- Whether the code point is a surrogate. -/
def isSurrogate : Point → Bool
  | char _ => false
  | surrogate _ => true

/-- The character, unless the code point is a surrogate. -/
def toChar? : Point → Option Char
  | char c => some c
  | surrogate _ => none

/-- Code point order. -/
def le (a b : Point) : Bool :=
  a.code ≤ b.code

/-- Whether the code point is an ASCII character. -/
def isAscii (p : Point) : Bool :=
  p.code < 0x80

end Point

end DocPages
