/-!
# Binary64 numbers

IEEE 754 binary64 values, as exact integers: a finite value is `± mantissa * 2 ^ exponent` with
a mantissa below `2 ^ 53` and an exponent from `-1074` to `971`. Two conversions are defined by
exact arithmetic on naturals:

- `ofRatio` rounds a quotient of naturals to the nearest binary64 value, ties to an even
  mantissa, with overflow to infinity and underflow through the subnormals to zero, and
  `ofDecimal` rounds `digits * 10 ^ exp10` through it;
- `shortest` finds the decimal with the fewest significant digits that rounds back to the
  value, the nearest one when several have that many digits, and `repr` writes it positionally
  when its decimal point falls between `-4` and `16` and in exponent form otherwise.
-/

namespace DocPages

/-- A binary64 value: finite, infinite or not a number. -/
inductive Binary64 where
  /-- The value `± mantissa * 2 ^ exponent`. -/
  | finite (negative : Bool) (mantissa : Nat) (exponent : Int)
  /-- Positive or negative infinity. -/
  | infinite (negative : Bool)
  /-- Not a number. -/
  | nan
  deriving Repr, DecidableEq, Inhabited

namespace Binary64

/-- Decimal digits of `n`; one for zero. -/
def decimalLength (n : Nat) : Nat :=
  (Nat.toDigits 10 n).length

/-- `a / b` rounded to the nearest natural, ties to even. -/
def divRoundEven (a b : Nat) : Nat :=
  let q := a / b
  let r := a % b
  if 2 * r < b then q
  else if b < 2 * r then q + 1
  else if q % 2 == 0 then q
  else q + 1

/-- `base ^ e` for an integer exponent, as a numerator and a denominator. -/
def powFrac (base : Nat) (e : Int) : Nat × Nat :=
  (Nat.pow base e.toNat, Nat.pow base (-e).toNat)

/-- The nearest binary64 value to `± num / den`, ties to an even mantissa, for a positive
denominator: the binary exponent is found from the bit lengths and corrected by one comparison,
and the mantissa is the quotient rounded at that exponent, or at `-1074` below the normal range.
A mantissa that rounds up to `2 ^ 53` moves to the next exponent. -/
def ofRatio (negative : Bool) (num den : Nat) : Binary64 :=
  if num = 0 then finite negative 0 (-1074)
  else
    let k : Int := (Nat.log2 num : Int) - (Nat.log2 den : Int)
    let atLeast := num * (powFrac 2 k).2 ≥ den * (powFrac 2 k).1
    let e2 := if atLeast then k else k - 1
    let q := max (e2 - 52) (-1074)
    let m := divRoundEven (num * (powFrac 2 q).2) (den * (powFrac 2 q).1)
    let mq := if m = Nat.pow 2 53 then (Nat.pow 2 52, q + 1) else (m, q)
    if 971 < mq.2 then infinite negative else finite negative mq.1 mq.2

/-- The nearest binary64 value to `± digits * 10 ^ exp10`, ties to an even mantissa. Values
with more than 310 digits before the point overflow and values whose first digit lies more than
330 places after it underflow, without computing the power. -/
def ofDecimal (negative : Bool) (digits : Nat) (exp10 : Int) : Binary64 :=
  if digits = 0 then finite negative 0 (-1074)
  else
    let len : Int := decimalLength digits
    if 310 < exp10 + len then infinite negative
    else if exp10 + len < -330 then finite negative 0 (-1074)
    else ofRatio negative (digits * (powFrac 10 exp10).1) (powFrac 10 exp10).2

/-! ### Shortest decimal -/

/-- Compares `d * 10 ^ s` with `x * 2 ^ (q - 2)`. -/
def compareScaled (d : Nat) (s : Int) (x : Nat) (q : Int) : Ordering :=
  compare (d * (powFrac 10 s).1 * (powFrac 2 (q - 2)).2)
    (x * (powFrac 2 (q - 2)).1 * (powFrac 10 s).2)

/-- A decimal `digits * 10 ^ exp10`. -/
structure Decimal where
  /-- The significant digits, as a natural. -/
  digits : Nat
  /-- The power of ten they are scaled by. -/
  exp10 : Int
  deriving Repr, DecidableEq

/-- The decimal without trailing zeros in its digits. -/
def Decimal.trim (d : Decimal) : Decimal :=
  go 25 d
where
  /-- Removes up to `fuel` trailing zeros. -/
  go : Nat → Decimal → Decimal
    | 0, d => d
    | fuel + 1, d =>
      if d.digits != 0 && d.digits % 10 == 0 then go fuel ⟨d.digits / 10, d.exp10 + 1⟩ else d

/-- The nearest decimal of `n` significant digits that rounds to `m * 2 ^ q`, if there is
one; `k` is the decimal exponent of the value. -/
def candidate (m : Nat) (q : Int) (k : Int) (n : Nat) : Option Decimal :=
  let s := k + 1 - n
  let v := powFrac 2 q
  let w := powFrac 10 s
  let d0 := (m * v.1 * w.2) / (v.2 * w.1)
  let boundary := m == Nat.pow 2 52 && q > -1074
  let lo := if boundary then 4 * m - 1 else 4 * m - 2
  let hi := 4 * m + 2
  let inside (d : Nat) : Bool :=
    let cl := compareScaled d s lo q
    let ch := compareScaled d s hi q
    if m % 2 == 0 then cl != .lt && ch != .gt else cl == .gt && ch == .lt
  match inside d0, inside (d0 + 1) with
  | true, true =>
    match compareScaled (2 * d0 + 1) s (8 * m) q with
    | .gt => some ⟨d0, s⟩
    | .lt => some ⟨d0 + 1, s⟩
    | .eq => some (if d0 % 2 == 0 then ⟨d0, s⟩ else ⟨d0 + 1, s⟩)
  | true, false => some ⟨d0, s⟩
  | false, true => some ⟨d0 + 1, s⟩
  | false, false => none

/-- The decimal exponent of `m * 2 ^ q` for a positive mantissa: the `k` with
`10 ^ k ≤ m * 2 ^ q < 10 ^ (k + 1)`. -/
def decimalExponent (m : Nat) (q : Int) : Int :=
  let num := m * (powFrac 2 q).1
  let den := (powFrac 2 q).2
  let k : Int := (decimalLength num : Int) - (decimalLength den : Int)
  if num * (powFrac 10 k).2 ≥ den * (powFrac 10 k).1 then k else k - 1

/-- The shortest decimal that rounds back to `m * 2 ^ q`, for a positive mantissa. Seventeen
significant digits always suffice. -/
def shortest (m : Nat) (q : Int) : Decimal :=
  let k := decimalExponent m q
  let found := (List.range 17).findSome? fun i => candidate m q k (i + 1)
  (found.getD ⟨m, 0⟩).trim

/-- Digits of a natural in base ten. -/
def digitString (n : Nat) : String :=
  String.ofList (Nat.toDigits 10 n)

/-- A decimal exponent written with its sign and at least two digits. -/
def exponentString (e : Int) : String :=
  let ds := digitString e.natAbs
  (if e < 0 then "-" else "+") ++ (if ds.length < 2 then "0" ++ ds else ds)

/-- Writes significant digits whose decimal point stands `point` places after the first
digit's left: positionally for `-4 < point ≤ 16`, else in exponent form. -/
def layout (ds : String) (point : Int) : String :=
  let n : Int := ds.length
  if point ≤ -4 || 16 < point then
    let first := String.ofList (ds.toList.take 1)
    let rest := String.ofList (ds.toList.drop 1)
    first ++ (if rest.isEmpty then "" else "." ++ rest) ++ "e" ++ exponentString (point - 1)
  else if point ≤ 0 then
    "0." ++ String.ofList (List.replicate (-point).toNat '0') ++ ds
  else if point < n then
    String.ofList (ds.toList.take point.toNat) ++ "." ++ String.ofList (ds.toList.drop point.toNat)
  else
    ds ++ String.ofList (List.replicate (point - n).toNat '0') ++ ".0"

/-- The value written as the shortest decimal that reads back to it: `1.0`, `-0.0`, `1e+16`,
`1e-07`, `inf`, `nan`. -/
def repr : Binary64 → String
  | nan => "nan"
  | infinite negative => if negative then "-inf" else "inf"
  | finite negative m q =>
    let sign := if negative then "-" else ""
    if m = 0 then sign ++ "0.0"
    else
      let d := shortest m q
      let ds := digitString d.digits
      sign ++ layout ds (d.exp10 + ds.length)

/-- Whether the value is not zero. -/
def isNonzero : Binary64 → Bool
  | finite _ m _ => m != 0
  | _ => true

end Binary64

end DocPages
