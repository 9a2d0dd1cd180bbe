import DocPages.Yaml.Error
import DocPages.Yaml.Tag
import DocPages.Decimal.Arith
import DocPages.Text.Base64
import DocPages.Text.Case
/-!
# Typed scalars

How the text of a scalar becomes a value of its type. Underscores in numbers are ignored, and a
sign may stand first. An integer is `0`, binary after `0b`, hexadecimal after `0x`, octal after
another leading `0`, base 60 when it has `:` groups, and decimal otherwise; a float is an
infinity or not-a-number after a point, base 60 when it has `:` groups, and decimal otherwise.
Base 60 groups are read each on its own, the last as units, and summed with weights that grow
sixty times per group; for a float, each weight is rounded to a binary64 value and each product
and sum is rounded as it is made.

A truth value is one of the words `yes`, `no`, `true`, `false`, `on`, `off` in any case; binary
data is base64 in ASCII; a timestamp names a real date and, with a time, a real time in a zone
less than a day from universal time.
-/

namespace DocPages.Yaml.Scalar

/-- A text without its underscores. -/
def withoutUnderscores (t : Text) : Text :=
  t.filter (· != .char '_')

/-- The sign of a number's text (`true` for `-`) and the text after it. An empty text has no
sign to read. -/
def signed (t : Text) : LoadResult (Bool × Text) :=
  match t with
  | [] => .error .emptyNumber
  | .char '-' :: rest => .ok (true, rest)
  | .char '+' :: rest => .ok (false, rest)
  | rest => .ok (false, rest)

/-- A numeral error as a load error. -/
def numeral {α : Type} (r : Except Numeral.NumeralError α) : LoadResult α :=
  r.mapError .numeral

/-- The value of base 60 digits, the last one the units. -/
def sexagesimalValue (digits : List Int) : Int :=
  digits.foldl (fun acc d => 60 * acc + d) 0

/-- The integer a scalar's text denotes. -/
def int (t : Text) : LoadResult Int := do
  let (negative, v) ← signed (withoutUnderscores t)
  let sign : Int := if negative then -1 else 1
  match v with
  | [.char '0'] => pure 0
  | .char '0' :: .char 'b' :: ds => pure (sign * (← numeral (Numeral.readInt 2 ds)))
  | .char '0' :: .char 'x' :: ds => pure (sign * (← numeral (Numeral.readInt 16 ds)))
  | .char '0' :: _ => pure (sign * (← numeral (Numeral.readInt 8 v)))
  | [] => throw .emptyNumber
  | _ =>
    if v.any (· == .char ':') then
      let digits ← numeral ((v.splitOn ':').mapM Numeral.readDecimalInt)
      pure (sign * sexagesimalValue digits)
    else pure (sign * (← numeral (Numeral.readDecimalInt v)))

/-- The sum of base 60 float digits, the last one the units: each digit times its weight, the
weight rounded to a binary64 value, added one at a time from the units up. -/
def sexagesimalFloat (digits : List Binary64) : LoadResult Binary64 :=
  let step (acc : Binary64 × Nat) (d : Binary64) : LoadResult (Binary64 × Nat) := do
    let w ← numeral (Numeral.intToFloat acc.2)
    pure (acc.1.add (d.mul w), 60 * acc.2)
  (digits.reverse.foldlM step (.finite false 0 (-1074), 1)).map (·.1)

/-- The float a scalar's text denotes. -/
def float (t : Text) : LoadResult Binary64 := do
  let (negative, v) ← signed (Text.lower (withoutUnderscores t))
  let sign : Binary64 := .finite negative (Nat.pow 2 52) (-52)
  if v == Text.ofString ".inf" then pure (sign.mul (.infinite false))
  else if v == Text.ofString ".nan" then pure .nan
  else if v.any (· == .char ':') then
    let digits ← numeral ((v.splitOn ':').mapM Numeral.readFloat)
    pure (sign.mul (← sexagesimalFloat digits))
  else pure (sign.mul (← numeral (Numeral.readFloat v)))

/-- The truth value a scalar's text denotes, in any case. -/
def bool (t : Text) : LoadResult Bool :=
  let w := Text.lower t
  if w == Text.ofString "yes" || w == Text.ofString "true" || w == Text.ofString "on" then .ok true
  else if w == Text.ofString "no" || w == Text.ofString "false" || w == Text.ofString "off" then
    .ok false
  else .error (.unknownBool w)

/-- The bytes base64 text in a scalar encodes. -/
def binary (t : Text) : LoadResult (List UInt8) :=
  match t.mapM fun p => if p.isAscii then p.toChar? else none with
  | some cs => (Base64.decode cs).mapError fun _ => .malformed
  | none => .error .malformed

/-- The timestamp a scalar's text denotes, when it names a real date and time. -/
def timestamp (t : Text) : LoadResult Stamp := do
  match Stamp.parse? t with
  | none => throw .notTimestamp
  | some s =>
    match s.time with
    | none => (checkDate s.year s.month s.day).mapError .date
    | some time =>
      match time.zone with
      | some (.offset negative h m) => (checkOffset negative h m).mapError .date
      | _ => pure ()
      (checkDate s.year s.month s.day).mapError .date
      (checkTime time.hour time.minute time.second).mapError .date
    pure s

end DocPages.Yaml.Scalar
