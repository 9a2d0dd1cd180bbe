import DocPages.Decimal.Arith
import DocPages.Text.Quoted
/-!
# Numerals

Texts read as integers and as binary64 values, and integers written as decimal texts, with the
rules of a common scripting runtime:

- Before reading, a code point from `U+007F` on becomes an ASCII digit when it is a decimal digit
  of any script, a space when it is whitespace, and `?` otherwise, so that such a numeral reads
  as its ASCII digits and any other code point is refused.
- An integer is ASCII whitespace, a sign, for bases 2, 8 and 16 an optional prefix `0b`, `0o` or
  `0x` in either case, digits with single underscores between them, and whitespace. In base 10
  a numeral of more than `maxDigits` digits is refused before anything after it is looked at.
- A float is a sign and digits with an optional point, at least one digit, and an optional
  exponent, or `inf`, `infinity` or `nan` in any case, with whitespace around. It is rounded to
  the nearest binary64 value.
- An integer of more than `maxDigits` decimal digits is not written.

A refused text is reported with the text as given, quoted; an integer's is cut after 200
characters of the quoted form.
-/

namespace DocPages.Numeral

/-- The most decimal digits an integer is read from or written with. -/
def maxDigits : Nat := 4300

/-- Why a numeral is not read or a number not written. -/
inductive NumeralError where
  /-- A decimal integer of `digits` digits, more than the limit. -/
  | tooManyDigits (digits : Nat)
  /-- The text is not an integer in base `base`. -/
  | invalidInt (base : Nat) (text : Text)
  /-- The text is not a float. -/
  | invalidFloat (text : Text)
  /-- An integer beyond the largest finite binary64 value was used as a float. -/
  | tooLargeForFloat
  /-- An integer of more digits than the limit was to be written. -/
  | tooManyDigitsToWrite
  deriving Repr, DecidableEq, Inhabited

/-- The message of a numeral of `n` decimal digits, more than the limit. -/
def tooManyDigitsMessage (n : Nat) : Text :=
  Text.ofString "Exceeds the limit (" ++ Text.ofNat maxDigits ++
    " digits) for integer string conversion: value has " ++ Text.ofNat n ++
    " digits; use sys.set_int_max_str_digits() to increase the limit"

/-- The error's message. -/
def NumeralError.message : NumeralError → Text
  | .tooManyDigits n => tooManyDigitsMessage n
  | .invalidInt base t =>
    Text.ofString "invalid literal for int() with base " ++ Text.ofNat base ++ ": " ++
      (Text.quoted t).take 200
  | .invalidFloat t => Text.ofString "could not convert string to float: " ++ Text.quoted t
  | .tooLargeForFloat => "int too large to convert to float"
  | .tooManyDigitsToWrite =>
    Text.ofString "Exceeds the limit (" ++ Text.ofNat maxDigits ++
      " digits) for integer string conversion; use sys.set_int_max_str_digits() to increase the limit"

/-- A code point as a numeral reads it: ASCII ones as they are, a decimal digit as its ASCII
digit, whitespace as a space, and any other as `?`. -/
def asciiPoint (c : Point) : Point :=
  if c.code < 127 then c
  else if Text.isSpace c then .char ' '
  else
    match Text.decimalValue? c with
    | some d => .char (Char.ofNat ('0'.toNat + d))
    | none => .char '?'

/-- The text as a numeral reads it. -/
def asciiForm (t : Text) : Text :=
  t.map asciiPoint

/-- The value of an ASCII digit or letter as a digit of a base up to 36. -/
def digitValue? (c : Point) : Option Nat :=
  let n := c.code
  if '0'.toNat ≤ n && n ≤ '9'.toNat then some (n - '0'.toNat)
  else if 'a'.toNat ≤ n && n ≤ 'z'.toNat then some (n - 'a'.toNat + 10)
  else if 'A'.toNat ≤ n && n ≤ 'Z'.toNat then some (n - 'A'.toNat + 10)
  else none

/-- Whether `c` is a digit of base `base`. -/
def isDigitOf (base : Nat) (c : Point) : Bool :=
  match digitValue? c with
  | some d => d < base
  | none => false

/-- The digits of base `base` at the start of the text, underscores between them skipped, and
the text after them; `none` when two underscores meet or one ends the run. `prevUnderscore`
tells whether the code point before was an underscore; `acc` holds the digits so far,
reversed. -/
def digitRun (base : Nat) (prevUnderscore : Bool) (acc : List Nat) : Text → Option (List Nat × Text)
  | [] => if prevUnderscore then none else some (acc.reverse, [])
  | c :: rest =>
    if c == .char '_' then
      if prevUnderscore then none else digitRun base true acc rest
    else
      match digitValue? c with
      | some d =>
        if d < base then digitRun base false (d :: acc) rest
        else if prevUnderscore then none else some (acc.reverse, c :: rest)
      | none => if prevUnderscore then none else some (acc.reverse, c :: rest)

/-- The letter of the prefix that base `base` allows after `0`, if it allows one. -/
def prefixLetter? (base : Nat) : Option Char :=
  if base == 16 then some 'x' else if base == 8 then some 'o' else if base == 2 then some 'b'
  else none

/-- Whether `c` is the prefix letter of base `base`, in either case. -/
def isPrefixLetter (base : Nat) (c : Point) : Bool :=
  match prefixLetter? base with
  | some l => c == .char l || c == .char l.toUpper
  | none => false

/-- The text after a base prefix and the one underscore that may follow it. -/
def dropBasePrefix (base : Nat) : Text → Text
  | .char '0' :: c :: rest =>
    if isPrefixLetter base c then
      match rest with
      | .char '_' :: more => more
      | _ => rest
    else .char '0' :: c :: rest
  | t => t

/-- Whether a base is a power of two, which reads digits without the digit limit. -/
def isBinaryBase (base : Nat) : Bool :=
  base &&& (base - 1) == 0

/-- The value of digits of base `base`, most significant first. -/
def digitsValue (base : Nat) (ds : List Nat) : Nat :=
  ds.foldl (fun n d => base * n + d) 0

/-- The integer a text denotes in base `base`. -/
def readInt (base : Nat) (t : Text) : Except NumeralError Int :=
  let s := (asciiForm t).dropWhile Text.isAsciiSpace
  let (negative, s) : Bool × Text := match s with
    | .char '-' :: r => (true, r)
    | .char '+' :: r => (false, r)
    | r => (false, r)
  match dropBasePrefix base s with
  | .char '_' :: _ => .error (.invalidInt base t)
  | s =>
    match digitRun base false [] s with
    | none => .error (.invalidInt base t)
    | some (ds, rest) =>
      if !isBinaryBase base && maxDigits < ds.length then .error (.tooManyDigits ds.length)
      else if ds.isEmpty || !(rest.dropWhile Text.isAsciiSpace).isEmpty then
        .error (.invalidInt base t)
      else
        let n : Int := digitsValue base ds
        .ok (if negative then -n else n)

/-- The integer a text denotes in base 10. -/
def readDecimalInt (t : Text) : Except NumeralError Int :=
  readInt 10 t

/-- Whether a code point is an ASCII digit. -/
def isAsciiDigit (c : Point) : Bool :=
  isDigitOf 10 c

/-- The exponent at the start of a text, `e` or `E`, a sign and ASCII digits, and the text
after it; `none` when no exponent with a digit starts the text. -/
def exponent? : Text → Option (Int × Text)
  | e :: rest =>
    if e == .char 'e' || e == .char 'E' then
      let (negative, ds) : Bool × Text := match rest with
        | .char '-' :: d => (true, d)
        | .char '+' :: d => (false, d)
        | d => (false, d)
      let digits := ds.takeWhile isAsciiDigit
      if digits.isEmpty then none
      else
        let v : Int := digitsValue 10 (digits.filterMap digitValue?)
        some (if negative then -v else v, ds.dropWhile isAsciiDigit)
    else none
  | [] => none

/-- The nearest binary64 value to a whole text of the form `[sign] digits [. digits]
[exponent]` with at least one digit before the exponent; a point may stand first or last. -/
def decimalFloat? (t : Text) : Option Binary64 :=
  let (negative, rest) : Bool × Text := match t with
    | .char '-' :: r => (true, r)
    | .char '+' :: r => (false, r)
    | r => (false, r)
  let intPart := rest.takeWhile isAsciiDigit
  let rest := rest.dropWhile isAsciiDigit
  let (fracPart, rest) : Text × Text := match rest with
    | .char '.' :: r => (r.takeWhile isAsciiDigit, r.dropWhile isAsciiDigit)
    | r => ([], r)
  if intPart.isEmpty && fracPart.isEmpty then none
  else
    let e? : Option Int := match rest with
      | [] => some 0
      | r =>
        match exponent? r with
        | some (e, []) => some e
        | _ => none
    e?.map fun e =>
      Binary64.ofDecimal negative (digitsValue 10 ((intPart ++ fracPart).filterMap digitValue?))
        (e - fracPart.length)

/-- A text with its ASCII letters in lower case. -/
def asciiLower (t : Text) : Text :=
  t.map fun c =>
    if 'A'.toNat ≤ c.code && c.code ≤ 'Z'.toNat then .char (Char.ofNat (c.code + 32)) else c

/-- The value of a whole text naming an infinity or not-a-number: a sign, then `inf`,
`infinity` or `nan` in any case. -/
def specialFloat? (t : Text) : Option Binary64 :=
  let (negative, rest) : Bool × Text := match t with
    | .char '-' :: r => (true, r)
    | .char '+' :: r => (false, r)
    | r => (false, r)
  let word := asciiLower rest
  if word == Text.ofString "inf" || word == Text.ofString "infinity" then some (.infinite negative)
  else if word == Text.ofString "nan" then some .nan
  else none

/-- The float a text denotes. -/
def readFloat (t : Text) : Except NumeralError Binary64 :=
  let s := Text.stripAscii (asciiForm t)
  match decimalFloat? s with
  | some x => .ok x
  | none =>
    match specialFloat? s with
    | some x => .ok x
    | none => .error (.invalidFloat t)

/-- An integer used as a float: the nearest binary64 value, unless it is too large. -/
def intToFloat (n : Int) : Except NumeralError Binary64 :=
  match Binary64.ofInt? n with
  | some x => .ok x
  | none => .error .tooLargeForFloat

/-- The decimal text of an integer, unless it has more digits than the limit. -/
def intText (n : Int) : Except NumeralError Text :=
  if Nat.pow 10 maxDigits ≤ n.natAbs then .error .tooManyDigitsToWrite else .ok (Text.ofInt n)

end DocPages.Numeral
