import DocPages.Yaml.Timestamp
/-!
# Tags

The tags of the YAML types a document may build, and the tag a plain scalar has by its text
when it is written without one. The text decides by its first character which types to try, in
a fixed order, and the first type whose form the whole text has is its tag:

- `null`: `~`, `null`, `Null`, `NULL` or nothing;
- `bool`: `yes`, `no`, `true`, `false`, `on`, `off`, each in lower case, capitalised or in
  upper case;
- `int`: a sign, then `0b` and binary digits, `0` and octal digits, `0x` and hexadecimal
  digits, `0`, or decimal digits not starting with `0`, optionally followed by base 60 groups
  `:N` or `:NN` (the first of two digits at most 5); underscores may stand among the digits;
- `float`: a sign, digits, a point, digits and an exponent with a signed power; or a point,
  digits and an exponent; or base 60 groups followed by a point and digits; or `.inf` or
  `.nan`, each in three spellings;
- `timestamp`, `merge` (`<<`), `value` (`=`), and `yaml` (`!`, `&`, `*`).

A text ending in a line feed has a form when the text before the line feed has it. Every other
plain scalar is a string.
-/

namespace DocPages.Yaml.Tag

/-- The full name of a standard YAML type. -/
def standard (name : String) : String :=
  "tag:yaml.org,2002:" ++ name

/-- The tag of strings. -/
def str : String := standard "str"

/-- The tag of sequences. -/
def seq : String := standard "seq"

/-- The tag of mappings. -/
def map : String := standard "map"

/-- Whether a code point is one of the characters of `cs`. -/
def isOneOf (cs : String) (p : Point) : Bool :=
  match p with
  | .char c => cs.toList.contains c
  | .surrogate _ => false

/-- Whether a code point is an ASCII digit or an underscore. -/
def isDigitOrUnderscore (p : Point) : Bool :=
  isStampDigit p || p == .char '_'

/-- A text without its leading sign. -/
def unsigned : Text → Text
  | .char '-' :: rest => rest
  | .char '+' :: rest => rest
  | t => t

/-- Whether a text is one base 60 digit: one digit, or two of which the first is at most 5. -/
def isSexagesimalDigit : Text → Bool
  | [d] => isStampDigit d
  | [a, b] => isOneOf "012345" a && isStampDigit b
  | _ => false

/-- Whether a text is nothing, or an exponent: `e` or `E`, a sign, and digits. -/
def isExponentTail : Text → Bool
  | [] => true
  | e :: s :: ds => isOneOf "eE" e && isOneOf "-+" s && !ds.isEmpty && ds.all isStampDigit
  | _ => false

/-- Whether a text is a digit followed by digits and underscores. -/
def isDigitRun : Text → Bool
  | d :: rest => isStampDigit d && rest.all isDigitOrUnderscore
  | [] => false

/-- Whether a text is a non-zero digit followed by digits and underscores. -/
def isLeadingRun : Text → Bool
  | d :: rest => isOneOf "123456789" d && rest.all isDigitOrUnderscore
  | [] => false

/-- Whether a whole text has the form of a truth value. -/
def isBoolForm (t : Text) : Bool :=
  ["yes", "Yes", "YES", "no", "No", "NO", "true", "True", "TRUE", "false", "False", "FALSE",
    "on", "On", "ON", "off", "Off", "OFF"].any fun w => t == Text.ofString w

/-- Whether a whole text has the form of null. -/
def isNullForm (t : Text) : Bool :=
  ["~", "null", "Null", "NULL", ""].any fun w => t == Text.ofString w

/-- Whether a whole text has the form of a float. -/
def isFloatForm (t : Text) : Bool :=
  let body := unsigned t
  let signed := body.length < t.length
  let positional :=
    match body.splitOn '.' with
    | [whole, frac] =>
      match whole.splitOn ':' with
      | [digits] => isDigitRun digits && isExponentTail (frac.dropWhile isDigitOrUnderscore)
      | digits :: groups =>
        isDigitRun digits && groups.all isSexagesimalDigit && frac.all isDigitOrUnderscore
      | [] => false
    | _ => false
  let pointFirst :=
    match t with
    | .char '.' :: d :: rest => isStampDigit d && isExponentTail (rest.dropWhile isDigitOrUnderscore)
    | _ => false
  positional || pointFirst ||
    [".inf", ".Inf", ".INF"].any (fun w => body == Text.ofString w) ||
    (!signed && [".nan", ".NaN", ".NAN"].any fun w => t == Text.ofString w)

/-- Whether a whole text has the form of an integer. -/
def isIntForm (t : Text) : Bool :=
  match unsigned t with
  | .char '0' :: .char 'b' :: ds => !ds.isEmpty && ds.all (isOneOf "01_")
  | .char '0' :: .char 'x' :: ds => !ds.isEmpty && ds.all (isOneOf "0123456789abcdefABCDEF_")
  | [.char '0'] => true
  | .char '0' :: ds => ds.all (isOneOf "01234567_")
  | body =>
    match body.splitOn ':' with
    | [digits] => isLeadingRun digits
    | digits :: groups => isLeadingRun digits && groups.all isSexagesimalDigit
    | [] => false

/-- Whether a whole text has the form of a timestamp. -/
def isTimestampForm (t : Text) : Bool :=
  (Stamp.parseExact t).any Stamp.isImplicit

/-- The types a plain scalar may have, by its first character, in the order they are tried. -/
def candidates (t : Text) : List (String × (Text → Bool)) :=
  match t with
  | [] => [("null", isNullForm)]
  | c :: _ =>
    (if isOneOf "yYnNtTfFoO" c then [("bool", isBoolForm)] else []) ++
    (if isOneOf "-+0123456789." c then [("float", isFloatForm)] else []) ++
    (if isOneOf "-+0123456789" c then [("int", isIntForm)] else []) ++
    (if c == .char '<' then [("merge", fun s => s == Text.ofString "<<")] else []) ++
    (if isOneOf "~nN" c then [("null", isNullForm)] else []) ++
    (if isStampDigit c then [("timestamp", isTimestampForm)] else []) ++
    (if c == .char '=' then [("value", fun s => s == Text.ofString "=")] else []) ++
    (if isOneOf "!&*" c then [("yaml", fun s => s == Text.ofString "!" || s == Text.ofString "&" ||
      s == Text.ofString "*")] else [])

/-- Whether a text has a form, or is a text with that form followed by a line feed. -/
def hasForm (form : Text → Bool) (t : Text) : Bool :=
  form t || (Text.endsWith t "\n" && form t.dropLast)

/-- The tag of a plain scalar written without one. -/
def ofPlain (t : Text) : String :=
  match (candidates t).find? fun c => hasForm c.2 t with
  | some (name, _) => standard name
  | none => str

end DocPages.Yaml.Tag
