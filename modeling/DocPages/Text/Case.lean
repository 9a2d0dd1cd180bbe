import DocPages.Text.Basic
/-!
# Lowercasing

Full Unicode lowercasing: each character by its lowercase mapping, which for `U+0130` is two
characters, and capital sigma by the final sigma rule, which reads the characters around it in
the whole text. A surrogate stays as it is.
-/

namespace DocPages.Text

/-- The lowercase mapping of one code point other than capital sigma. -/
def lowerPoint (p : Point) : Text :=
  match p with
  | .char c =>
    if c.toNat == 0x130 then [.char 'i', .char (Char.ofNat 0x307)]
    else [.char (Char.ofNat (Unicode.lowerCode c.toNat))]
  | .surrogate _ => [p]

/-- A capital sigma between `before` (reversed) and `after` is final: past the
case-ignorable characters, a cased character stands before it and none after it. -/
def isFinalSigma (before after : Text) : Bool :=
  (match before.dropWhile isCaseIgnorable with
    | c :: _ => isCased c
    | [] => false) &&
  (match after.dropWhile isCaseIgnorable with
    | c :: _ => !isCased c
    | [] => true)

/-- Lowercase the code points after the reversed prefix `before`. -/
def lowerAux (before : Text) : Text → Text
  | [] => []
  | c :: rest =>
    let out :=
      if c.code == 0x3A3 then
        [.char (if isFinalSigma before rest then Char.ofNat 0x3C2 else Char.ofNat 0x3C3)]
      else lowerPoint c
    out ++ lowerAux (c :: before) rest

/-- The text in lowercase. -/
def lower (t : Text) : Text :=
  lowerAux [] t

end DocPages.Text
