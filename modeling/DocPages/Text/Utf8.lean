import DocPages.Text.Quoted
/-!
# UTF-8

Bytes read as UTF-8 (RFC 3629), and texts written as UTF-8. A decoder state is a partly read
character: how many continuation bytes it still owes, the range the next byte must lie in
(narrower after `E0`, `ED`, `F0` and `F4`, which rules out overlong forms, surrogates and code
points past `U+10FFFF`), the bits read so far and how many bytes it has taken.

A byte the state refuses ends the bytes read since the last character as one ill-formed piece,
and is then read again as the first byte of a character; a byte that cannot begin a character is
a piece of its own, and a character cut off by the end of the bytes is one too. So the pieces
are the maximal parts of ill-formed sequences that could begin a character. Three readings
follow from the pieces:

- a strict reading refuses the bytes at the first piece, naming where it lies and why;
- a lenient reading replaces each piece by one `U+FFFD`;
- a reading of file names keeps each byte of a piece as the surrogate `U+DC00` plus the byte,
  so that writing the name back gives the same bytes.

Writing is the converse: a character becomes its UTF-8 bytes, and a surrogate cannot be written,
except that a file name writes the surrogates `U+DC80`..`U+DCFF` back as the bytes they stand for.
A refusal names the run of surrogates it stopped at.
-/

namespace DocPages.Text

/-- A partly read character. -/
structure Utf8Pending where
  /-- Continuation bytes still owed. -/
  need : Nat
  /-- Least value of the next byte. -/
  lo : Nat
  /-- Greatest value of the next byte. -/
  hi : Nat
  /-- The code point bits read so far. -/
  bits : Nat
  /-- The bytes of the character read so far. -/
  taken : List UInt8

/-- Why a piece of bytes is not UTF-8. -/
inductive DecodeReason where
  /-- A byte that no character begins with. -/
  | invalidStart
  /-- A character whose next byte does not continue it. -/
  | invalidContinuation
  /-- A character cut off by the end of the bytes. -/
  | unexpectedEnd
  deriving Repr, DecidableEq, Inhabited

/-- The words a reason is reported with. -/
def DecodeReason.text : DecodeReason → Text
  | .invalidStart => "invalid start byte"
  | .invalidContinuation => "invalid continuation byte"
  | .unexpectedEnd => "unexpected end of data"

/-- What reading a byte produces: a character, or an ill-formed piece and its bytes. -/
inductive Utf8Piece where
  /-- A decoded character. -/
  | char (c : Char)
  /-- A maximal ill-formed piece. -/
  | bad (bytes : List UInt8) (reason : DecodeReason)

/-- Reading `b` as the first byte of a character. -/
def utf8Lead (b : UInt8) : List Utf8Piece × Option Utf8Pending :=
  let n := b.toNat
  if n < 0x80 then ([.char (Char.ofNat n)], none)
  else if 0xC2 ≤ n && n ≤ 0xDF then ([], some ⟨1, 0x80, 0xBF, n % 0x20, [b]⟩)
  else if n == 0xE0 then ([], some ⟨2, 0xA0, 0xBF, 0, [b]⟩)
  else if (0xE1 ≤ n && n ≤ 0xEC) || n == 0xEE || n == 0xEF then
    ([], some ⟨2, 0x80, 0xBF, n % 0x10, [b]⟩)
  else if n == 0xED then ([], some ⟨2, 0x80, 0x9F, 0xD, [b]⟩)
  else if n == 0xF0 then ([], some ⟨3, 0x90, 0xBF, 0, [b]⟩)
  else if 0xF1 ≤ n && n ≤ 0xF3 then ([], some ⟨3, 0x80, 0xBF, n % 0x08, [b]⟩)
  else if n == 0xF4 then ([], some ⟨3, 0x80, 0x8F, 4, [b]⟩)
  else ([.bad [b] .invalidStart], none)

/-- Reading one byte in a state. -/
def utf8Step : Option Utf8Pending → UInt8 → List Utf8Piece × Option Utf8Pending
  | none, b => utf8Lead b
  | some p, b =>
    if p.lo ≤ b.toNat && b.toNat ≤ p.hi then
      let bits := p.bits * 64 + b.toNat % 64
      if p.need ≤ 1 then ([.char (Char.ofNat bits)], none)
      else ([], some ⟨p.need - 1, 0x80, 0xBF, bits, p.taken ++ [b]⟩)
    else
      let r := utf8Lead b
      (.bad p.taken .invalidContinuation :: r.1, r.2)

/-- The pieces of the bytes after those already read into state `st`. -/
def utf8Pieces (st : Option Utf8Pending) : List UInt8 → List Utf8Piece
  | [] =>
    match st with
    | some p => [.bad p.taken .unexpectedEnd]
    | none => []
  | b :: bs =>
    let r := utf8Step st b
    r.1 ++ utf8Pieces r.2 bs

/-- The replacement character `U+FFFD`. -/
def replacementPoint : Point := .char (Char.ofNat 0xFFFD)

/-- The bytes read as UTF-8, each ill-formed piece replaced by `U+FFFD`. -/
def decodeUtf8Lossy (bytes : List UInt8) : Text :=
  (utf8Pieces none bytes).map fun
    | .char c => .char c
    | .bad _ _ => replacementPoint

/-- The bytes read as a file name: each byte of an ill-formed piece kept as a surrogate. -/
def decodeName (bytes : List UInt8) : Text :=
  (utf8Pieces none bytes).flatMap fun
    | .char c => [.char c]
    | .bad bs _ => bs.map fun b => .surrogate (0xDC00 + b.toNat)

/-- Where and why bytes are not UTF-8: the first ill-formed piece, from byte `start`. -/
structure DecodeError where
  /-- The position of the piece's first byte. -/
  start : Nat
  /-- The piece's bytes. -/
  bytes : List UInt8
  /-- Why it is ill-formed. -/
  reason : DecodeReason
  deriving Repr, DecidableEq, Inhabited

/-- The error's message: the byte, or the range of positions, and the reason. -/
def DecodeError.message (e : DecodeError) : Text :=
  match e.bytes with
  | [b] => ofString "'utf-8' codec can't decode byte 0x" ++ hexDigits 2 b.toNat ++
      " in position " ++ ofNat e.start ++ ": " ++ e.reason.text
  | _ => ofString "'utf-8' codec can't decode bytes in position " ++ ofNat e.start ++ "-" ++
      ofNat (e.start + e.bytes.length - 1) ++ ": " ++ e.reason.text

/-- The characters of the pieces from byte position `pos` on, or the first ill-formed piece. -/
def utf8Chars (pos : Nat) : List Utf8Piece → Except DecodeError Text
  | [] => .ok []
  | .char c :: rest =>
    (utf8Chars (pos + (String.singleton c).utf8ByteSize) rest).map (.char c :: ·)
  | .bad bs reason :: _ => .error ⟨pos, bs, reason⟩

/-- The bytes read as UTF-8, or the first ill-formed piece. -/
def decodeUtf8 (bytes : List UInt8) : Except DecodeError Text :=
  utf8Chars 0 (utf8Pieces none bytes)

/-- The bytes read as UTF-8, when they are well-formed. -/
def decodeUtf8? (bytes : List UInt8) : Option Text :=
  match decodeUtf8 bytes with
  | .ok t => some t
  | .error _ => none

/-- Where a text cannot be written: the run of code points from `start` that stopped it. -/
structure EncodeError where
  /-- The position of the first code point that cannot be written. -/
  start : Nat
  /-- The code points of the run, the first of them among them. -/
  points : Text
  deriving Repr, DecidableEq, Inhabited

/-- The error's message: the code point, or the range of positions. -/
def EncodeError.message (e : EncodeError) : Text :=
  match e.points with
  | [p] =>
    let n := p.code
    let esc := if n ≤ 0xFF then ofString "\\x" ++ hexDigits 2 n
      else if n ≤ 0xFFFF then ofString "\\u" ++ hexDigits 4 n
      else ofString "\\U" ++ hexDigits 8 n
    ofString "'utf-8' codec can't encode character '" ++ esc ++ "' in position " ++
      ofNat e.start ++ ": surrogates not allowed"
  | _ => ofString "'utf-8' codec can't encode characters in position " ++ ofNat e.start ++ "-" ++
      ofNat (e.start + e.points.length - 1) ++ ": surrogates not allowed"

/-- The UTF-8 bytes of a character. -/
def charBytes (c : Char) : List UInt8 :=
  (String.singleton c).toUTF8.toList

/-- Whether a surrogate is one that a file name writes back as a byte. -/
def isByteSurrogate (p : Point) : Bool :=
  0xDC80 ≤ p.code && p.code ≤ 0xDCFF

/-- Writes the code points from position `pos` on; `names` selects the writing of file
names, which writes the surrogates `U+DC80`..`U+DCFF` as bytes. A surrogate that cannot be
written stops the writing, with the surrogates that follow it. -/
def encodeFrom (names : Bool) (pos : Nat) : Text → Except EncodeError (List UInt8)
  | [] => .ok []
  | .char c :: rest => (encodeFrom names (pos + 1) rest).map (charBytes c ++ ·)
  | p@(.surrogate _) :: rest =>
    if names && isByteSurrogate p then
      (encodeFrom names (pos + 1) rest).map ((p.code - 0xDC00).toUInt8 :: ·)
    else .error ⟨pos, p :: rest.takeWhile Point.isSurrogate⟩

/-- The UTF-8 bytes of a text, unless it holds a surrogate. -/
def encodeUtf8 (t : Text) : Except EncodeError (List UInt8) :=
  encodeFrom false 0 t

/-- The bytes of a file name. -/
def encodeName (t : Text) : Except EncodeError (List UInt8) :=
  encodeFrom true 0 t

/-- The UTF-8 bytes of a string. -/
def stringBytes (s : String) : List UInt8 :=
  s.toUTF8.toList

end DocPages.Text
