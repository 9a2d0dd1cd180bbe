import DocPages.Text.Basic
/-!
# Timestamps

The checks a calendar library makes when a YAML timestamp becomes a date or a date and time,
and the text of a time difference. A date needs a year from 1 to 9999, a month from 1 to 12
and a day that the month has in that year (the Gregorian leap rule); a time needs an hour below
24 and a minute and second below 60. A time zone offset must lie strictly between minus and
plus one day.

A time difference is held normalised as days, seconds below one day and microseconds below one
second, the days carrying the sign, and is written with the fields that are not zero.

The form of a timestamp is `YYYY-M-D`, month and day of one or two digits, optionally followed
by `T`, `t` or blanks and a time `H:MM:SS`, the hour of one or two digits, with an optional
fraction after a point and an optional zone: blanks, then `Z` or a sign, hours of one or two
digits and optionally `:MM`. A text ending in a line feed has the form when the text before the
line feed has it.
-/

namespace DocPages.Yaml

/-- Why a timestamp is no date or time. -/
inductive DateError where
  /-- The year is outside 1 to 9999. -/
  | year (y : Nat)
  /-- The month is outside 1 to 12. -/
  | month
  /-- The month has no such day. -/
  | day
  /-- The hour is 24 or more. -/
  | hour
  /-- The minute is 60 or more. -/
  | minute
  /-- The second is 60 or more. -/
  | second
  /-- The zone offset, normalised to days and seconds, is a day or more away from zero. -/
  | offset (days : Int) (seconds : Nat)
  deriving Repr, DecidableEq, Inhabited

/-- A time zone of a timestamp. -/
inductive Zone where
  /-- `Z`. -/
  | utc
  /-- An offset of hours and minutes from universal time. -/
  | offset (negative : Bool) (hours minutes : Nat)
  deriving Repr, DecidableEq, Inhabited

/-- The time of a timestamp. -/
structure StampTime where
  /-- The hour. -/
  hour : Nat
  /-- The minute. -/
  minute : Nat
  /-- The second. -/
  second : Nat
  /-- The digits after the point, empty when there are none. -/
  fraction : Text
  /-- The zone, when one is written. -/
  zone : Option Zone
  deriving Repr, DecidableEq, Inhabited

/-- A timestamp as written. -/
structure Stamp where
  /-- The year. -/
  year : Nat
  /-- The month. -/
  month : Nat
  /-- The day. -/
  day : Nat
  /-- Whether month and day both have two digits. -/
  fullDate : Bool
  /-- The time, when one is written. -/
  time : Option StampTime
  deriving Repr, DecidableEq, Inhabited

/-- Whether a code point is an ASCII digit. -/
def isStampDigit (p : Point) : Bool :=
  match p with
  | .char c => '0' ≤ c && c ≤ '9'
  | .surrogate _ => false

/-- Whether a code point is a space or a tab. -/
def isStampBlank (p : Point) : Bool :=
  p == .char ' ' || p == .char '\t'

/-- The value of ASCII digits. -/
def stampValue (ds : Text) : Nat :=
  ds.foldl (fun n d => 10 * n + (d.code - '0'.toNat)) 0

/-- Exactly `n` digits at the start of a text, and the text after them. -/
def stampDigits (n : Nat) (t : Text) : Option (Nat × Text) :=
  let ds := t.take n
  if ds.length == n && ds.all isStampDigit then some (stampValue ds, t.drop n) else none

/-- One or two digits at the start of a text, as many as there are, and whether there were
two. -/
def stampShort (t : Text) : Option (Nat × Bool × Text) :=
  match t with
  | a :: b :: rest =>
    if !isStampDigit a then none
    else if isStampDigit b then some (stampValue [a, b], true, rest)
    else some (stampValue [a], false, b :: rest)
  | [a] => if isStampDigit a then some (stampValue [a], false, []) else none
  | [] => none

/-- The zone at the end of a timestamp: nothing, or blanks and `Z` or a signed offset. -/
def stampZone (t : Text) : Option (Option Zone) :=
  if t.isEmpty then some none
  else
    match t.dropWhile isStampBlank with
    | [.char 'Z'] => some (some .utc)
    | s :: rest =>
      if s == .char '-' || s == .char '+' then
        match stampShort rest with
        | some (h, _, []) => some (some (.offset (s == .char '-') h 0))
        | some (h, _, .char ':' :: mm) =>
          match stampDigits 2 mm with
          | some (m, []) => some (some (.offset (s == .char '-') h m))
          | _ => none
        | _ => none
      else none
    | [] => none

/-- The time of a timestamp after the date: `T`, `t` or blanks, then the time to the end. -/
def stampTime (t : Text) : Option StampTime := do
  let rest ← match t with
    | .char 'T' :: r => some r
    | .char 't' :: r => some r
    | c :: r => if isStampBlank c then some (r.dropWhile isStampBlank) else none
    | [] => none
  let (hour, _, rest) ← stampShort rest
  let rest ← match rest with
    | .char ':' :: r => some r
    | _ => none
  let (minute, rest) ← stampDigits 2 rest
  let rest ← match rest with
    | .char ':' :: r => some r
    | _ => none
  let (second, rest) ← stampDigits 2 rest
  let (fraction, rest) := match rest with
    | .char '.' :: r => (r.takeWhile isStampDigit, r.dropWhile isStampDigit)
    | r => ([], r)
  let zone ← stampZone rest
  pure { hour, minute, second, fraction, zone }

/-- A whole text read as a timestamp. -/
def Stamp.parseExact (t : Text) : Option Stamp := do
  let (year, rest) ← stampDigits 4 t
  let rest ← match rest with
    | .char '-' :: r => some r
    | _ => none
  let (month, twoMonth, rest) ← stampShort rest
  let rest ← match rest with
    | .char '-' :: r => some r
    | _ => none
  let (day, twoDay, rest) ← stampShort rest
  let time ← if rest.isEmpty then some none else (stampTime rest).map some
  pure { year, month, day, fullDate := twoMonth && twoDay, time }

/-- A text read as a timestamp; a final line feed may follow it. -/
def Stamp.parse? (t : Text) : Option Stamp :=
  match Stamp.parseExact t with
  | some s => some s
  | none => if Text.endsWith t "\n" then Stamp.parseExact t.dropLast else none

/-- Whether a timestamp is written in a form that marks a plain scalar as one: a date with
two-digit month and day, or a date and a time. -/
def Stamp.isImplicit (s : Stamp) : Bool :=
  s.fullDate || s.time.isSome

/-- Whether a year is a leap year. -/
def isLeapYear (y : Nat) : Bool :=
  y % 4 == 0 && (y % 100 != 0 || y % 400 == 0)

/-- The number of days of a month, from 1 to 12. -/
def daysInMonth (y m : Nat) : Nat :=
  if m == 2 then (if isLeapYear y then 29 else 28)
  else if m == 4 || m == 6 || m == 9 || m == 11 then 30
  else 31

/-- The text of a time difference of `days` days and `seconds` seconds, as its fields that are
not zero, or `0`. -/
def timedeltaText (days : Int) (seconds : Nat) : Text :=
  let fields : List Text :=
    (if days != 0 then [Text.ofString "days=" ++ Text.ofInt days] else []) ++
    (if seconds != 0 then [Text.ofString "seconds=" ++ Text.ofNat seconds] else [])
  Text.ofString "datetime.timedelta(" ++ (if fields.isEmpty then Text.ofString "0" else Text.join ", " fields) ++ ")"

/-- The error's message. -/
def DateError.message : DateError → Text
  | .year y => Text.ofString "year " ++ Text.ofNat y ++ " is out of range"
  | .month => "month must be in 1..12"
  | .day => "day is out of range for month"
  | .hour => "hour must be in 0..23"
  | .minute => "minute must be in 0..59"
  | .second => "second must be in 0..59"
  | .offset d s =>
    Text.ofString "offset must be a timedelta strictly between -timedelta(hours=24) and " ++
      "timedelta(hours=24), not " ++ timedeltaText d s ++ "."

/-- Checks a date. -/
def checkDate (y m d : Nat) : Except DateError Unit :=
  if y < 1 || 9999 < y then .error (.year y)
  else if m < 1 || 12 < m then .error .month
  else if d < 1 || daysInMonth y m < d then .error .day
  else .ok ()

/-- Checks a time of day. -/
def checkTime (h mi s : Nat) : Except DateError Unit :=
  if 23 < h then .error .hour
  else if 59 < mi then .error .minute
  else if 59 < s then .error .second
  else .ok ()

/-- Checks a zone offset of `hours` and `minutes`, negative when `negative` holds: the offset
in seconds, normalised to days and seconds, must be a day or less from zero, and not minus one
day exactly. -/
def checkOffset (negative : Bool) (hours minutes : Nat) : Except DateError Unit :=
  let total : Int := (hours * 3600 + minutes * 60 : Nat)
  let signed := if negative then -total else total
  let days := signed.fdiv 86400
  let seconds := (signed.fmod 86400).toNat
  if days < -1 || 1 ≤ days || (days == -1 && seconds == 0) then .error (.offset days seconds)
  else .ok ()

end DocPages.Yaml
