import DocPages.Json.Value
import DocPages.Decimal.Numeral
/-!
# Reading JSON

A reader for JSON text with the extensions and limits of a common lenient dialect: the
constants `NaN`, `Infinity` and `-Infinity` are numbers; whitespace is space, tab, line feed and
carriage return; digits are ASCII; control characters may not stand unescaped in a string; an
object may repeat a key, and the later value then replaces the earlier one in the earlier
place. A number is an integer unless it has a fraction or an exponent. After the value only
whitespace may follow.

A `\uXXXX` escape of a high surrogate followed at once by one of a low surrogate stands for the
character they encode; any other surrogate escape stands for the lone surrogate itself.

Two limits stop reading with an error of their own rather than a syntax error: an integer of
more digits than `Numeral.maxDigits`, and containers nested deeper than the room the reader is
given, one frame of the stack for each open container. The text is read from the left, so of
several faults the first one met is reported.

Reading is bounded by a fuel argument, twice the length of the text: every nested value and
every further element spends one unit, and each consumes at least one character.
-/

namespace DocPages.Json

/-- Why a text is not read as a JSON value. -/
inductive ReadError where
  /-- The text does not follow the grammar. -/
  | malformed
  /-- An integer has more decimal digits than the limit: `digits` of them. -/
  | tooManyDigits (digits : Nat)
  /-- A container, an object when `object` holds, opens past the room for nesting. -/
  | tooDeep (object : Bool)
  deriving Repr, DecidableEq, Inhabited

/-- The message of an error that is not a syntax error. -/
def ReadError.message : ReadError → Text
  | .malformed => "invalid JSON"
  | .tooManyDigits n => Numeral.tooManyDigitsMessage n
  | .tooDeep object =>
    Text.ofString "maximum recursion depth exceeded while decoding a JSON " ++
      (if object then Text.ofString "object" else "array") ++ " from a unicode string"

/-- What reading a part of the text gives: a value and the text after it. -/
abbrev Reading := Except ReadError (Json × Text)

/-- JSON whitespace. -/
def isWhitespace (c : Point) : Bool :=
  c == .char ' ' || c == .char '\t' || c == .char '\n' || c == .char '\r'

/-- The text after leading whitespace. -/
def skipWs (cs : Text) : Text :=
  cs.dropWhile isWhitespace

/-- Whether a code point is an ASCII digit. -/
def isDigit (c : Point) : Bool :=
  '0'.toNat ≤ c.code && c.code ≤ '9'.toNat

/-- The value of a hexadecimal digit. -/
def hexValue? (c : Point) : Option Nat :=
  let n := c.code
  if '0'.toNat ≤ n && n ≤ '9'.toNat then some (n - '0'.toNat)
  else if 'a'.toNat ≤ n && n ≤ 'f'.toNat then some (n - 'a'.toNat + 10)
  else if 'A'.toNat ≤ n && n ≤ 'F'.toNat then some (n - 'A'.toNat + 10)
  else none

/-- The value of four hexadecimal digits. -/
def hex4? (a b c d : Point) : Option Nat := do
  let a ← hexValue? a
  let b ← hexValue? b
  let c ← hexValue? c
  let d ← hexValue? d
  pure (((a * 16 + b) * 16 + c) * 16 + d)

/-- The code point of a simple escape `\c`. -/
def simpleEscape? (c : Point) : Option Point :=
  if c == .char '"' then some c
  else if c == .char '\\' then some c
  else if c == .char '/' then some c
  else if c == .char 'b' then some (.char (Char.ofNat 8))
  else if c == .char 'f' then some (.char (Char.ofNat 12))
  else if c == .char 'n' then some (.char '\n')
  else if c == .char 'r' then some (.char '\r')
  else if c == .char 't' then some (.char '\t')
  else none

/-- Whether a code unit is a high surrogate. -/
def isHighSurrogate (u : Nat) : Bool :=
  0xD800 ≤ u && u ≤ 0xDBFF

/-- Whether a code unit is a low surrogate. -/
def isLowSurrogate (u : Nat) : Bool :=
  0xDC00 ≤ u && u ≤ 0xDFFF

/-- The rest of a string after its opening quote: its code points and the text after the
closing quote. `acc` holds the code points read so far, reversed. -/
def readString (acc : Text) : Text → Option (Text × Text)
  | [] => none
  | .char '"' :: rest => some (acc.reverse, rest)
  | .char '\\' :: .char 'u' :: a :: b :: c :: d :: .char '\\' :: .char 'u' :: e :: f :: g :: h :: more =>
    match hex4? a b c d, hex4? e f g h with
    | none, _ => none
    | some u, some lo =>
      if isHighSurrogate u && isLowSurrogate lo then
        readString (Point.ofCode (0x10000 + (u - 0xD800) * 0x400 + (lo - 0xDC00)) :: acc) more
      else readString (Point.ofCode u :: acc) (.char '\\' :: .char 'u' :: e :: f :: g :: h :: more)
    | some u, none =>
      if isHighSurrogate u then none
      else readString (Point.ofCode u :: acc) (.char '\\' :: .char 'u' :: e :: f :: g :: h :: more)
  | .char '\\' :: .char 'u' :: a :: b :: c :: d :: rest =>
    match hex4? a b c d with
    | some u => readString (Point.ofCode u :: acc) rest
    | none => none
  | .char '\\' :: c :: rest =>
    match simpleEscape? c with
    | some e => readString (e :: acc) rest
    | none => none
  | c :: rest => if c.code < 0x20 then none else readString (c :: acc) rest
termination_by cs => cs.length

/-- The value of ASCII digits. -/
def digitsValue (ds : Text) : Nat :=
  ds.foldl (fun n c => 10 * n + (c.code - '0'.toNat)) 0

/-- A number: its value and the text after it. An integer part is `0` or a non-zero digit
and more digits; a fraction is `.` and digits; an exponent `e` or `E`, a sign and digits. A
`.` or `e` not followed by what it needs ends the number before it. -/
def readNumber (cs : Text) : Reading :=
  let (negative, body) := match cs with
    | .char '-' :: r => (true, r)
    | r => (false, r)
  let intPart? : Option (Text × Text) := match body with
    | .char '0' :: r => some ("0", r)
    | c :: r => if isDigit c && c != .char '0' then some (c :: r.takeWhile isDigit, r.dropWhile isDigit)
      else none
    | [] => none
  match intPart? with
  | none => .error .malformed
  | some (intPart, rest) =>
    let (fracPart, rest) := match rest with
      | .char '.' :: d :: r => if isDigit d then (d :: r.takeWhile isDigit, r.dropWhile isDigit)
        else ([], rest)
      | _ => ([], rest)
    let (expPart, rest) : Text × Text := match rest with
      | e :: r =>
        if e == .char 'e' || e == .char 'E' then
          let (sign, ds) : Text × Text := match r with
            | .char '+' :: d => ("+", d)
            | .char '-' :: d => ("-", d)
            | d => ([], d)
          let digits := ds.takeWhile isDigit
          if digits.isEmpty then ([], rest) else (e :: sign ++ digits, ds.dropWhile isDigit)
        else ([], rest)
      | [] => ([], rest)
    if fracPart.isEmpty && expPart.isEmpty then
      if Numeral.maxDigits < intPart.length then .error (.tooManyDigits intPart.length)
      else
        let n : Int := digitsValue intPart
        .ok (int (if negative then -n else n), rest)
    else
      let text := (if negative then Text.ofString "-" else []) ++ intPart ++
        (if fracPart.isEmpty then [] else .char '.' :: fracPart) ++ expPart
      .ok (float ((Numeral.decimalFloat? text).getD Binary64.nan), rest)

mutual

/-- A value at the start of the text (after whitespace), inside `depth` open containers, where
`room` containers may be open at once: the value and the text after it. -/
def readValue (room : Nat) : Nat → Nat → Text → Reading
  | 0, _, _ => .error .malformed
  | fuel + 1, depth, cs =>
    match cs with
    | .char '"' :: rest =>
      match readString [] rest with
      | some (s, r) => .ok (str s, r)
      | none => .error .malformed
    | .char '{' :: rest =>
      if room ≤ depth then .error (.tooDeep true)
      else
        match skipWs rest with
        | .char '}' :: r => .ok (obj [], r)
        | r => readFields room fuel (depth + 1) [] r
    | .char '[' :: rest =>
      if room ≤ depth then .error (.tooDeep false)
      else
        match skipWs rest with
        | .char ']' :: r => .ok (arr [], r)
        | r => readItems room fuel (depth + 1) [] r
    | .char 'n' :: .char 'u' :: .char 'l' :: .char 'l' :: rest => .ok (null, rest)
    | .char 't' :: .char 'r' :: .char 'u' :: .char 'e' :: rest => .ok (bool true, rest)
    | .char 'f' :: .char 'a' :: .char 'l' :: .char 's' :: .char 'e' :: rest => .ok (bool false, rest)
    | .char 'N' :: .char 'a' :: .char 'N' :: rest => .ok (float .nan, rest)
    | .char 'I' :: .char 'n' :: .char 'f' :: .char 'i' :: .char 'n' :: .char 'i' :: .char 't' ::
        .char 'y' :: rest =>
      .ok (float (.infinite false), rest)
    | .char '-' :: .char 'I' :: .char 'n' :: .char 'f' :: .char 'i' :: .char 'n' :: .char 'i' ::
        .char 't' :: .char 'y' :: rest =>
      .ok (float (.infinite true), rest)
    | _ => readNumber cs

/-- Fields of an object from a key on, inside `depth` open containers; `acc` holds the
fields read so far. -/
def readFields (room : Nat) : Nat → Nat → List (Text × Json) → Text → Reading
  | 0, _, _, _ => .error .malformed
  | fuel + 1, depth, acc, .char '"' :: rest =>
    match readString [] rest with
    | none => .error .malformed
    | some (k, r) =>
      match skipWs r with
      | .char ':' :: r => do
        let (v, r) ← readValue room fuel depth (skipWs r)
        let acc := setField acc k v
        match skipWs r with
        | .char '}' :: r => pure (obj acc, r)
        | .char ',' :: r => readFields room fuel depth acc (skipWs r)
        | _ => .error .malformed
      | _ => .error .malformed
  | _ + 1, _, _, _ => .error .malformed

/-- Elements of an array from an element on, inside `depth` open containers; `acc` holds the
elements read so far, reversed. -/
def readItems (room : Nat) : Nat → Nat → List Json → Text → Reading
  | 0, _, _, _ => .error .malformed
  | fuel + 1, depth, acc, cs => do
    let (v, r) ← readValue room fuel depth cs
    match skipWs r with
    | .char ']' :: r => pure (arr (v :: acc).reverse, r)
    | .char ',' :: r => readItems room fuel depth (v :: acc) (skipWs r)
    | _ => .error .malformed

end

/-- The JSON document a text holds: one value with only whitespace around it, its containers
nested at most `room` deep. -/
def read (room : Nat) (cs : Text) : Except ReadError Json := do
  let (v, rest) ← readValue room (2 * cs.length + 2) 0 (skipWs cs)
  if (skipWs rest).isEmpty then pure v else throw .malformed

/-- The JSON document a text holds, when it is one, however deep it nests: a text of `n`
characters opens fewer than `n + 1` containers. -/
def parse? (cs : Text) : Option Json :=
  match read (cs.length + 1) cs with
  | .ok v => some v
  | .error _ => none

end DocPages.Json
