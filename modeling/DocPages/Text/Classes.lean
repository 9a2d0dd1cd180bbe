import DocPages.Text.Point
import DocPages.Unicode.Alnum
import DocPages.Unicode.Printable
import DocPages.Unicode.Case
/-!
# Character classes

The classes of code points that the text rules of this library test: whitespace (what `strip`
removes and what separates words), line breaks (what ends a line), word characters (what a tag
title is made of), printable characters (what a quoted string shows as is), decimal digits of
every script (what a number may be written in), and the two case classes of the final sigma
rule. A surrogate belongs to none of them.

The decimal digits are the code points of general category `Nd` under Unicode 14.0. They come in
runs of ten consecutive code points, from the digit zero to the digit nine of one script, so the
table lists where each run starts, and a digit's value is its distance from the start of its run.
-/

namespace DocPages.Unicode

/-- The first code point of each run of ten decimal digits, in increasing order. -/
def decimalRuns : List Nat := [
  0x30, 0x660, 0x6F0, 0x7C0, 0x966, 0x9E6, 0xA66, 0xAE6, 0xB66, 0xBE6, 0xC66, 0xCE6, 0xD66,
  0xDE6, 0xE50, 0xED0, 0xF20, 0x1040, 0x1090, 0x17E0, 0x1810, 0x1946, 0x19D0, 0x1A80, 0x1A90,
  0x1B50, 0x1BB0, 0x1C40, 0x1C50, 0xA620, 0xA8D0, 0xA900, 0xA9D0, 0xA9F0, 0xAA50, 0xABF0,
  0xFF10, 0x104A0, 0x10D30, 0x11066, 0x110F0, 0x11136, 0x111D0, 0x112F0, 0x11450, 0x114D0,
  0x11650, 0x116C0, 0x11730, 0x118E0, 0x11950, 0x11C50, 0x11D50, 0x11DA0, 0x16A60, 0x16AC0,
  0x16B50, 0x1D7CE, 0x1D7D8, 0x1D7E2, 0x1D7EC, 0x1D7F6, 0x1E140, 0x1E2F0, 0x1E950, 0x1FBF0]

/-- The value of code point `n` as a decimal digit, if it is one. -/
def decimalValue? (n : Nat) : Option Nat :=
  (decimalRuns.find? fun start => start ≤ n && n < start + 10).map (n - ·)

end DocPages.Unicode

namespace DocPages.Text

/-- Whitespace: the ASCII controls tab to carriage return, the information separators
`U+001C`..`U+001F`, space, next line, no-break space and the Unicode space separators, line
separator and paragraph separator. -/
def isSpace (p : Point) : Bool :=
  let n := p.code
  (9 ≤ n && n ≤ 13) || (0x1C ≤ n && n ≤ 0x20) || n == 0x85 || n == 0xA0 || n == 0x1680 ||
    (0x2000 ≤ n && n ≤ 0x200A) || n == 0x2028 || n == 0x2029 || n == 0x202F || n == 0x205F ||
    n == 0x3000

/-- ASCII whitespace: tab to carriage return and space. -/
def isAsciiSpace (p : Point) : Bool :=
  let n := p.code
  (9 ≤ n && n ≤ 13) || n == 0x20

/-- Line breaks: line feed, vertical tab, form feed, carriage return, the file, group and record
separators, next line, line separator and paragraph separator. (A carriage return followed by a
line feed is one break; `splitLines` handles the pair.) -/
def isLineBreak (p : Point) : Bool :=
  let n := p.code
  (0x0A ≤ n && n ≤ 0x0D) || (0x1C ≤ n && n ≤ 0x1E) || n == 0x85 || n == 0x2028 || n == 0x2029

/-- Word characters: the alphanumeric characters and the underscore. -/
def isWordChar (p : Point) : Bool :=
  p == Point.char '_' || Unicode.alnumTable.contains p.code

/-- Characters that a quoted string shows as themselves. -/
def isPrintable (p : Point) : Bool :=
  Unicode.printableTable.contains p.code

/-- Case-ignorable characters, which the final sigma rule looks past. -/
def isCaseIgnorable (p : Point) : Bool :=
  Unicode.caseIgnorableTable.contains p.code

/-- Cased characters that are not case-ignorable. -/
def isCased (p : Point) : Bool :=
  Unicode.casedTable.contains p.code

/-- ASCII decimal digits. -/
def isDigit (p : Point) : Bool :=
  48 ≤ p.code && p.code ≤ 57

/-- The value of a decimal digit of any script. -/
def decimalValue? (p : Point) : Option Nat :=
  Unicode.decimalValue? p.code

/-- Decimal digits of any script. -/
def isDecimal (p : Point) : Bool :=
  (decimalValue? p).isSome

end DocPages.Text
