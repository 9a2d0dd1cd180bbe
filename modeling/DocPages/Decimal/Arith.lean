import DocPages.Decimal.Binary64
/-!
# Binary64 arithmetic

Negation, addition and multiplication of binary64 values, and the conversion of an integer, in
round-to-nearest with ties to an even mantissa. Each finite result is the exact sum or product,
a signed mantissa scaled by a power of two, rounded once by `ofRatio`.

The special cases follow IEEE 754: a not-a-number operand gives not-a-number, infinities of
opposite signs add to not-a-number, and an infinity times zero is not-a-number. An exact zero
sum is positive unless both operands are negative; a zero product has the sign of the product.
-/

namespace DocPages.Binary64

/-- The value `m * 2 ^ e` of a signed mantissa, rounded; an exact zero is negative when
`zeroNegative` holds. -/
def ofScaled (m : Int) (e : Int) (zeroNegative : Bool) : Binary64 :=
  if m = 0 then finite zeroNegative 0 (-1074)
  else ofRatio (m < 0) (m.natAbs * (powFrac 2 e).1) (powFrac 2 e).2

/-- The value with its sign changed. -/
def neg : Binary64 → Binary64
  | finite negative m q => finite (!negative) m q
  | infinite negative => infinite (!negative)
  | nan => nan

/-- A mantissa with its sign. -/
def signedMantissa (negative : Bool) (m : Nat) : Int :=
  if negative then -(m : Int) else m

/-- The rounded sum. -/
def add : Binary64 → Binary64 → Binary64
  | nan, _ => nan
  | _, nan => nan
  | infinite s, infinite t => if s == t then infinite s else nan
  | infinite s, finite _ _ _ => infinite s
  | finite _ _ _, infinite t => infinite t
  | finite s m q, finite t n r =>
    let e := min q r
    let sum := signedMantissa s m * (Nat.pow 2 (q - e).toNat : Nat) +
      signedMantissa t n * (Nat.pow 2 (r - e).toNat : Nat)
    ofScaled sum e (s && t)

/-- The rounded product. -/
def mul : Binary64 → Binary64 → Binary64
  | nan, _ => nan
  | _, nan => nan
  | infinite s, infinite t => infinite (s != t)
  | infinite s, finite t n _ => if n = 0 then nan else infinite (s != t)
  | finite s m _, infinite t => if m = 0 then nan else infinite (s != t)
  | finite s m q, finite t n r => ofScaled (signedMantissa (s != t) (m * n)) (q + r) (s != t)

/-- The nearest binary64 value to an integer, unless it rounds past the largest finite
value. -/
def ofInt? (n : Int) : Option Binary64 :=
  match ofDecimal (n < 0) n.natAbs 0 with
  | infinite _ => none
  | x => some x

end DocPages.Binary64
