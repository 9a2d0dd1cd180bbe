import DocPages.Yaml.Error
import DocPages.Text.Utf8
/-!
# YAML tokens

The scanner turns a YAML stream into tokens the way a YAML 1.1 loader does, and on demand: it
scans only as far as the reader of the tokens needs. Block structure is kept by a stack of
indentation columns: a collection that starts further right than the current column opens a
level (`blockSequenceStart`, `blockMappingStart`), and a token that starts further left closes
levels (`blockEnd`). Flow collections (`[...]`, `{...}`) ignore indentation.

A mapping key without `?` is a *simple key*: the scanner remembers, for each flow level, the
number of the last token that could start one, and when a `:` follows on the same line within
1024 characters it inserts `key` (and, for a new block mapping, `blockMappingStart`) before that
token. So a token that may still become a key is not handed out until that is decided, and the
scanner reads ahead until it is. A simple key that starts a line at the current indentation is
required: if no `:` follows it, the stream is malformed.

Only spaces indent and separate tokens; a tab is allowed only inside scalars and after a
directive name or a block entry, never where a token must start.

Scalars are texts of code points: an escape in a double-quoted scalar may name a surrogate,
which is kept, while one beyond `U+10FFFF` stops the scan with an error of its own.

Scanning runs on the loader's stack. A request for a token stands at some depth, the question
whether to scan further one frame above it, and each scan of a token one frame above that.
Within a scan, skipping to the token takes three frames; the scan of each kind of token then
takes the frames of its own steps, of the position marks it takes, of the simple key it may
remember and of the token it makes. A line break that ends the stream takes one frame more
where it is read.
-/

namespace DocPages.Yaml

/-- What a directive says. -/
inductive Directive where
  /-- `%YAML major.minor`. -/
  | yaml (major minor : Nat)
  /-- `%TAG handle prefix`. -/
  | tag (handle pfx : String)
  /-- Any other directive, which is ignored. -/
  | other
  deriving Repr, DecidableEq, Inhabited

/-- A token of a YAML stream. -/
inductive Token where
  /-- The start of the stream. -/
  | streamStart
  /-- The end of the stream. -/
  | streamEnd
  /-- A `%` directive. -/
  | directive (d : Directive)
  /-- `---`. -/
  | documentStart
  /-- `...`. -/
  | documentEnd
  /-- A block sequence opens. -/
  | blockSequenceStart
  /-- A block mapping opens. -/
  | blockMappingStart
  /-- A block collection closes. -/
  | blockEnd
  /-- `[`. -/
  | flowSequenceStart
  /-- `]`. -/
  | flowSequenceEnd
  /-- The left brace of a flow mapping. -/
  | flowMappingStart
  /-- The right brace of a flow mapping. -/
  | flowMappingEnd
  /-- A mapping key follows. -/
  | key
  /-- A mapping value follows. -/
  | value
  /-- `-` before a block sequence entry. -/
  | blockEntry
  /-- `,` between flow entries. -/
  | flowEntry
  /-- `*name`. -/
  | alias (name : String)
  /-- `&name`. -/
  | anchor (name : String)
  /-- A tag: its handle (none for a verbatim tag or a lone `!`) and suffix. -/
  | tag (handle : Option String) (suffix : String)
  /-- A scalar's text, and whether it was written plain. -/
  | scalar (text : Text) (plain : Bool)
  deriving Repr, DecidableEq, Inhabited

/-! ### Characters -/

/-- The character the scanner sees past the end of the stream. -/
def eof : Char := Char.ofNat 0

/-- The apostrophe. -/
def apostrophe : Char := Char.ofNat 0x27

/-- A line break: carriage return, line feed, next line, line or paragraph separator. -/
def isBreak (c : Char) : Bool :=
  c == '\r' || c == '\n' || c.toNat == 0x85 || c.toNat == 0x2028 || c.toNat == 0x2029

/-- A line break or the end of the stream. -/
def isBreakZ (c : Char) : Bool := c == eof || isBreak c

/-- A space, a line break or the end of the stream. -/
def isSpaceZ (c : Char) : Bool := c == ' ' || isBreakZ c

/-- A space, a tab, a line break or the end of the stream. -/
def isBlankZ (c : Char) : Bool := c == '\t' || isSpaceZ c

/-- A character that may appear in a YAML stream. -/
def isPrintable (c : Char) : Bool :=
  let n := c.toNat
  n == 0x9 || n == 0xA || n == 0xD || (0x20 ≤ n && n ≤ 0x7E) || n == 0x85 ||
    (0xA0 ≤ n && n ≤ 0xD7FF) || (0xE000 ≤ n && n ≤ 0xFFFD) || 0x10000 ≤ n

/-- An ASCII digit. -/
def isDigitChar (c : Char) : Bool := '0' ≤ c && c ≤ '9'

/-- A character of an anchor, alias, directive or handle name. -/
def isNameChar (c : Char) : Bool :=
  isDigitChar c || ('A' ≤ c && c ≤ 'Z') || ('a' ≤ c && c ≤ 'z') || c == '-' || c == '_'

/-- A character of a tag's URI, `%` escapes included. -/
def isUriChar (c : Char) : Bool :=
  isNameChar c || "-;/?:@&=+$,_.!~*()[]%".toList.contains c || c == apostrophe

/-- A character that cannot begin a plain scalar by itself. -/
def isIndicator (c : Char) : Bool :=
  "-?:,[]#&*!|>\"%@".toList.contains c || c == apostrophe || c.toNat == 0x60 ||
    c.toNat == 0x7B || c.toNat == 0x7D

/-- A flow collection bracket or brace. -/
def isFlowBracket (c : Char) : Bool :=
  c == '[' || c == ']' || c.toNat == 0x7B || c.toNat == 0x7D

/-- The value of a hexadecimal digit. -/
def hexDigitValue? (c : Char) : Option Nat :=
  if isDigitChar c then some (c.toNat - '0'.toNat)
  else if 'a' ≤ c && c ≤ 'f' then some (c.toNat - 'a'.toNat + 10)
  else if 'A' ≤ c && c ≤ 'F' then some (c.toNat - 'A'.toNat + 10)
  else none

/-- The code point a one-letter escape of a double-quoted scalar stands for. -/
def escapeChar? (c : Char) : Option Char :=
  match c with
  | '0' => some (Char.ofNat 0)
  | 'a' => some (Char.ofNat 7)
  | 'b' => some (Char.ofNat 8)
  | 't' => some '\t'
  | '\t' => some '\t'
  | 'n' => some '\n'
  | 'v' => some (Char.ofNat 11)
  | 'f' => some (Char.ofNat 12)
  | 'r' => some '\r'
  | 'e' => some (Char.ofNat 27)
  | ' ' => some ' '
  | '"' => some '"'
  | '/' => some '/'
  | '\\' => some '\\'
  | 'N' => some (Char.ofNat 0x85)
  | '_' => some (Char.ofNat 0xA0)
  | 'L' => some (Char.ofNat 0x2028)
  | 'P' => some (Char.ofNat 0x2029)
  | _ => none

/-- The number of hexadecimal digits after `x`, `u` and `U` escapes. -/
def escapeLength? (c : Char) : Option Nat :=
  match c with
  | 'x' => some 2
  | 'u' => some 4
  | 'U' => some 8
  | _ => none

/-- The text of characters. -/
def charsText (cs : List Char) : Text :=
  cs.map Point.char

/-! ### Scanner state -/

/-- Where a possible simple key began. -/
structure SimpleKey where
  /-- The number of the token it begins with. -/
  tokenNumber : Nat
  /-- Whether a `:` must follow. -/
  required : Bool
  /-- Its offset in the stream. -/
  index : Nat
  /-- Its line. -/
  line : Nat
  /-- Its column. -/
  column : Nat
  deriving Repr, Inhabited

/-- The scanner: the stream, the position, the indentation stack, the possible simple keys by
flow level, and the tokens scanned but not yet taken. -/
structure Scanner where
  /-- The stream. -/
  input : Array Char
  /-- The offset of the next character. -/
  pos : Nat := 0
  /-- The current line. -/
  line : Nat := 0
  /-- The current column. -/
  column : Nat := 0
  /-- How many flow collections are open. -/
  flowLevel : Nat := 0
  /-- The current indentation column, `-1` at the top. -/
  indent : Int := -1
  /-- The enclosing indentation columns. -/
  indents : List Int := []
  /-- Whether a simple key may start here. -/
  allowSimpleKey : Bool := true
  /-- The possible simple key of each flow level, latest first. -/
  keys : List (Nat × SimpleKey) := []
  /-- The tokens scanned and not yet taken, in order. -/
  tokens : List Token := [.streamStart]
  /-- How many tokens were taken. -/
  taken : Nat := 0
  /-- Whether the end of the stream was scanned. -/
  done : Bool := false
  deriving Inhabited

/-- A result of scanning. -/
abbrev ScanResult (α : Type) := LoadResult α

namespace Scanner

/-- The character `k` places ahead. -/
def peek (s : Scanner) (k : Nat) : Char :=
  s.input.getD (s.pos + k) eof

/-- How many characters from `k` places ahead satisfy `p`. -/
def span (s : Scanner) (k : Nat) (p : Char → Bool) : Nat :=
  go 0 (s.input.size + 1)
where
  /-- Counts from `n` on. -/
  go (n : Nat) : Nat → Nat
    | 0 => n
    | fuel + 1 => if p (s.peek (k + n)) && s.pos + k + n < s.input.size then go (n + 1) fuel else n

/-- The next `n` characters. -/
def ahead (s : Scanner) (n : Nat) : List Char :=
  (s.input.extract s.pos (s.pos + n)).toList

/-- The next `n` characters as a text. -/
def aheadText (s : Scanner) (n : Nat) : Text :=
  charsText (s.ahead n)

/-- The next `n` characters as a string. -/
def aheadString (s : Scanner) (n : Nat) : String :=
  String.ofList (s.ahead n)

/-- The scanner one character further, keeping line and column: a byte order mark takes no
column. -/
def advance1 (s : Scanner) : Scanner :=
  let ch := s.peek 0
  let s' := { s with pos := s.pos + 1 }
  if (isBreak ch && ch != '\r') || (ch == '\r' && s.peek 1 != '\n') then
    { s' with line := s.line + 1, column := 0 }
  else if ch.toNat == 0xFEFF then s'
  else { s' with column := s.column + 1 }

/-- The scanner `n` characters further. -/
def advance (s : Scanner) : Nat → Scanner
  | 0 => s
  | n + 1 => s.advance1.advance n

/-- The scanner with a token added at the end. -/
def emit (s : Scanner) (t : Token) : Scanner :=
  { s with tokens := s.tokens ++ [t] }

/-- Consumes a line break; a carriage return line feed pair or a next line reads as a line
feed. Gives the empty text when no break is next. -/
def lineBreak (s : Scanner) : Scanner × Text :=
  let ch := s.peek 0
  if ch == '\r' || ch == '\n' || ch.toNat == 0x85 then
    if ch == '\r' && s.peek 1 == '\n' then (s.advance 2, "\n") else (s.advance 1, "\n")
  else if ch.toNat == 0x2028 || ch.toNat == 0x2029 then (s.advance 1, [.char ch])
  else (s, [])

/-- Whether `---` or `...` followed by a blank is next. -/
def atSeparator (s : Scanner) : Bool :=
  (s.ahead 3 == ['-', '-', '-'] || s.ahead 3 == ['.', '.', '.']) && isBlankZ (s.peek 3)

/-- The scanner past the characters up to the next line break or the end. -/
def skipLine (s : Scanner) : Scanner :=
  s.advance (s.span 0 fun c => !isBreakZ c)

/-- The scanner past the spaces ahead. -/
def skipSpaces (s : Scanner) : Scanner :=
  s.advance (s.span 0 (· == ' '))

/-- Skips spaces, comments and line breaks before the next token; a line break in block
context allows a simple key. A byte order mark is skipped at the very start. -/
def skipToToken (s : Scanner) : Scanner :=
  let s := if s.pos == 0 && (s.peek 0).toNat == 0xFEFF then s.advance 1 else s
  go s (s.input.size + 1)
where
  /-- One line at a time. -/
  go (s : Scanner) : Nat → Scanner
    | 0 => s
    | fuel + 1 =>
      let s := s.skipSpaces
      let s := if s.peek 0 == '#' then s.skipLine else s
      let (s', br) := s.lineBreak
      if br.isEmpty then s
      else go (if s'.flowLevel == 0 then { s' with allowSimpleKey := true } else s') fuel

/-! ### Indentation and simple keys -/

/-- Closes the block levels deeper than `column`, outside flow collections. -/
def unwindIndent (s : Scanner) (column : Int) : Scanner :=
  if s.flowLevel != 0 then s else go s s.indents.length
where
  /-- One level at a time. -/
  go (s : Scanner) : Nat → Scanner
    | 0 => s
    | fuel + 1 =>
      if s.indent > column then
        match s.indents with
        | i :: rest => go ({ s with indent := i, indents := rest }.emit .blockEnd) fuel
        | [] => s
      else s

/-- Opens a block level at `column` when it is deeper than the current one. -/
def addIndent (s : Scanner) (column : Int) : Option Scanner :=
  if s.indent < column then some { s with indents := s.indent :: s.indents, indent := column }
  else none

/-- Forgets the possible simple key of the current flow level, in a step at depth `d`; it is an
error if it was required, reported with a mark of where the scan stands. -/
def removeKey (s : Scanner) (d : Nat) : ScanResult Scanner := do
  enter d .step
  match s.keys.lookup s.flowLevel with
  | some k =>
    if k.required then
      markFrom d
      throw .malformed
    else pure { s with keys := s.keys.filter (·.1 != s.flowLevel) }
  | none => pure s

/-- Remembers, in a step at depth `d`, that the next token may begin a simple key: the key
holds a mark of where it begins. -/
def saveKey (s : Scanner) (d : Nat) : ScanResult Scanner := do
  enter d .step
  let required := s.flowLevel == 0 && s.indent == s.column
  if s.allowSimpleKey then
    let s ← s.removeKey (d + 1)
    markFrom d
    makeFrom d
    let k : SimpleKey := ⟨s.taken + s.tokens.length, required, s.pos, s.line, s.column⟩
    pure { s with keys := (s.flowLevel, k) :: s.keys }
  else pure s

/-- Whether a possible simple key can no longer be one: it began on an earlier line or more
than 1024 characters back. -/
def isStale (s : Scanner) (k : SimpleKey) : Bool :=
  k.line != s.line || s.pos - k.index > 1024

/-- Forgets the stale possible simple keys, in a step at depth `d`; it is an error if one was
required. -/
def staleKeys (s : Scanner) (d : Nat) : ScanResult Scanner := do
  enter d .step
  if s.keys.any fun e => s.isStale e.2 && e.2.required then
    markFrom d
    throw .malformed
  else pure { s with keys := s.keys.filter fun e => !s.isStale e.2 }

/-- The number of the earliest token that may still begin a simple key. -/
def nextKeyNumber (s : Scanner) : Option Nat :=
  s.keys.foldl (fun m e => match m with
    | some n => some (min n e.2.tokenNumber)
    | none => some e.2.tokenNumber) none

/-- The queued tokens with `t` inserted before the token numbered `n`. -/
def insertToken (s : Scanner) (n : Nat) (t : Token) : Scanner :=
  let i := n - s.taken
  { s with tokens := s.tokens.take i ++ [t] ++ s.tokens.drop i }

/-! ### Frames of the reading steps -/

/-- Moving `n` characters on, by a step at depth `d`: the move takes a frame, and one more when
it reaches the end of the stream, where more input would be asked for. -/
def forwardFrom (s : Scanner) (d n : Nat) : ScanResult Unit := do
  enter (d + 1) .step
  if s.input.size ≤ s.pos + n then enter (d + 2) .step

/-- Whether the characters read since offset `start` end the stream with a line break. -/
def brokeAtEnd (s : Scanner) (start : Nat) : Bool :=
  start < s.pos && s.input.size ≤ s.pos && isBreak (s.input.getD (s.pos - 1) eof)

/-- The block ends unwinding made, by a step at depth `d` from the scanner `before`: each takes
a mark and makes a token. -/
def unwoundFrom (before s : Scanner) (d : Nat) : ScanResult Unit := do
  enter (d + 1) .step
  if s.tokens.length != before.tokens.length then
    markFrom (d + 1)
    makeFrom (d + 1)

/-- A fault of the stream met by a step at depth `d`, reported with a mark of where the scan
stands. -/
def faultFrom {α : Type} (d : Nat) : ScanResult α := do
  markFrom d
  throw .malformed

/-- The marks and the token of a one-character indicator, scanned by a step at depth `d`. -/
def indicatorFrom (s : Scanner) (d : Nat) : ScanResult Unit := do
  markFrom d
  s.forwardFrom d 1
  makeFrom d

/-! ### Indicators -/

/-- The end of the stream, scanned by a step at depth `d`. -/
def fetchStreamEnd (s : Scanner) (d : Nat) : ScanResult Scanner := do
  enter d .step
  let before := s
  let s := s.unwindIndent (-1)
  unwoundFrom before s d
  let s ← s.removeKey (d + 1)
  markFrom d
  makeFrom d
  pure { s.emit .streamEnd with allowSimpleKey := false, keys := [], done := true }

/-- `---` or `...`, scanned by a step at depth `d` and the step for document indicators above
it. -/
def fetchDocumentIndicator (s : Scanner) (t : Token) (d : Nat) : ScanResult Scanner := do
  enter (d + 1) .step
  let before := s
  let s := s.unwindIndent (-1)
  unwoundFrom before s (d + 1)
  let s ← s.removeKey (d + 2)
  markFrom (d + 1)
  s.forwardFrom (d + 1) 3
  makeFrom (d + 1)
  pure { (s.advance 3).emit t with allowSimpleKey := false }

/-- `[` or the left brace, scanned by a step at depth `d` and the step for collection starts
above it. -/
def fetchFlowStart (s : Scanner) (t : Token) (d : Nat) : ScanResult Scanner := do
  enter (d + 1) .step
  let s ← s.saveKey (d + 2)
  s.indicatorFrom (d + 1)
  pure { (s.advance 1).emit t with flowLevel := s.flowLevel + 1, allowSimpleKey := true }

/-- `]` or the right brace, scanned by a step at depth `d` and the step for collection ends
above it. -/
def fetchFlowEnd (s : Scanner) (t : Token) (d : Nat) : ScanResult Scanner := do
  enter (d + 1) .step
  let s ← s.removeKey (d + 2)
  s.indicatorFrom (d + 1)
  pure { (s.advance 1).emit t with flowLevel := s.flowLevel - 1, allowSimpleKey := false }

/-- `,`, scanned by a step at depth `d`. -/
def fetchFlowEntry (s : Scanner) (d : Nat) : ScanResult Scanner := do
  enter d .step
  let s ← { s with allowSimpleKey := true }.removeKey (d + 1)
  s.indicatorFrom d
  pure ((s.advance 1).emit .flowEntry)

/-- Opens a block collection at the current column, in block context, where a simple key
could start; a step at depth `d` asks for it. -/
def openBlock (s : Scanner) (t : Token) (d : Nat) : ScanResult Scanner :=
  if s.flowLevel != 0 then .ok s
  else if !s.allowSimpleKey then do
    markFrom d
    throw .malformed
  else do
    enter (d + 1) .step
    match s.addIndent s.column with
    | some s =>
      markFrom d
      makeFrom d
      pure (s.emit t)
    | none => pure s

/-- `-` before a block sequence entry, scanned by a step at depth `d`. -/
def fetchBlockEntry (s : Scanner) (d : Nat) : ScanResult Scanner := do
  enter d .step
  let s ← s.openBlock .blockSequenceStart d
  let s ← { s with allowSimpleKey := true }.removeKey (d + 1)
  s.indicatorFrom d
  pure ((s.advance 1).emit .blockEntry)

/-- `?` before a complex key, scanned by a step at depth `d`. -/
def fetchKey (s : Scanner) (d : Nat) : ScanResult Scanner := do
  enter d .step
  let s ← s.openBlock .blockMappingStart d
  let s ← { s with allowSimpleKey := s.flowLevel == 0 }.removeKey (d + 1)
  s.indicatorFrom d
  pure ((s.advance 1).emit .key)

/-- `:` before a mapping value, scanned by a step at depth `d`: it completes the possible simple
key of this level if there is one, and otherwise follows a complex key. -/
def fetchValue (s : Scanner) (d : Nat) : ScanResult Scanner := do
  enter d .step
  match s.keys.lookup s.flowLevel with
  | some k =>
    makeFrom d
    let s := { s with keys := s.keys.filter (·.1 != s.flowLevel) }
    let s := s.insertToken k.tokenNumber .key
    let s ←
      if s.flowLevel != 0 then pure s
      else do
        enter (d + 1) .step
        match s.addIndent k.column with
        | some s =>
          makeFrom d
          pure (s.insertToken k.tokenNumber .blockMappingStart)
        | none => pure s
    s.indicatorFrom d
    pure { (s.advance 1).emit .value with allowSimpleKey := false }
  | none =>
    let s ← s.openBlock .blockMappingStart d
    let s ← { s with allowSimpleKey := s.flowLevel == 0 }.removeKey (d + 1)
    s.indicatorFrom d
    pure ((s.advance 1).emit .value)

/-- `*name` or `&name`, scanned by a step at depth `d` and the step for names above it: a name
of letters, digits, `-` and `_`, followed by a blank or one of `?:,]}%@` and the backtick. -/
def fetchAnchor (s : Scanner) (isAlias : Bool) (d : Nat) : ScanResult Scanner := do
  enter d .step
  let s ← s.saveKey (d + 1)
  enter (d + 1) .step
  markFrom (d + 1)
  s.forwardFrom (d + 1) 1
  let s := { s with allowSimpleKey := false }.advance 1
  let n := s.span 0 isNameChar
  if n == 0 then
    markFrom (d + 1)
    throw .malformed
  let name := s.aheadString n
  s.forwardFrom (d + 1) n
  let s := s.advance n
  let ch := s.peek 0
  if !(isBlankZ ch || "?:,]%@".toList.contains ch || ch.toNat == 0x7D || ch.toNat == 0x60) then
    markFrom (d + 1)
    throw .malformed
  markFrom (d + 1)
  makeFrom (d + 1)
  pure (s.emit (if isAlias then .alias name else .anchor name))

/-! ### Tags and directives -/

/-- The text of `%` escapes ahead, read as UTF-8; `acc` holds the bytes read so far. -/
def uriEscapes (s : Scanner) (acc : List UInt8) : Nat → ScanResult (Scanner × String)
  | 0 => .error .malformed
  | fuel + 1 =>
    if s.peek 0 == '%' then
      match hexDigitValue? (s.peek 1), hexDigitValue? (s.peek 2) with
      | some a, some b => uriEscapes (s.advance 3) (acc ++ [(16 * a + b).toUInt8]) fuel
      | _, _ => .error .malformed
    else
      match (Text.decodeUtf8 acc).toOption.bind Text.toString? with
      | some str => .ok (s, str)
      | none => .error .malformed

/-- A URI: URI characters, `%` escapes decoded; at least one character. -/
def tagUri (s : Scanner) : ScanResult (Scanner × String) :=
  go s [] false (s.input.size + 1)
where
  /-- The chunks so far; `any` tells whether a chunk was read. -/
  go (s : Scanner) (acc : List Char) (any : Bool) : Nat → ScanResult (Scanner × String)
    | 0 => .error .malformed
    | fuel + 1 =>
      let n := s.span 0 fun c => isUriChar c && c != '%'
      let acc := acc ++ s.ahead n
      let s := s.advance n
      if s.peek 0 == '%' then
        match uriEscapes s [] (s.input.size + 1) with
        | .ok (s, str) => go s (acc ++ str.toList) true fuel
        | .error e => .error e
      else if !any && n == 0 then .error .malformed
      else .ok (s, String.ofList acc)

/-- A tag handle: `!`, or `!` and name characters and `!`. -/
def tagHandle (s : Scanner) : ScanResult (Scanner × String) :=
  if s.peek 0 != '!' then .error .malformed
  else if s.peek 1 == ' ' then .ok (s.advance 1, "!")
  else
    let n := s.span 1 isNameChar
    if s.peek (1 + n) != '!' then .error .malformed
    else .ok (s.advance (n + 2), s.aheadString (n + 2))

/-- A tag, scanned by a step at depth `d` and the step for tags above it: `!<uri>`, `!`,
`!suffix`, `!!suffix` or `!handle!suffix`, followed by a space or a line break. -/
def fetchTag (s : Scanner) (d : Nat) : ScanResult Scanner := do
  enter d .step
  let s ← s.saveKey (d + 1)
  enter (d + 1) .step
  markFrom (d + 1)
  let s := { s with allowSimpleKey := false }
  let (s, handle, suffix) ←
    if s.peek 1 == '<' then do
      let (s, uri) ← (s.advance 2).tagUri
      if s.peek 0 != '>' then throw .malformed
      pure (s.advance 1, none, uri)
    else if isBlankZ (s.peek 1) then pure (s.advance 1, none, "!")
    else do
      let m := s.span 1 fun c => !isSpaceZ c
      let useHandle := (s.ahead (m + 1)).drop 1 |>.contains '!'
      let (s, handle) ← if useHandle then s.tagHandle else pure (s.advance 1, "!")
      let (s, uri) ← s.tagUri
      pure (s, some handle, uri)
  if !isSpaceZ (s.peek 0) then
    markFrom (d + 1)
    throw .malformed
  markFrom (d + 1)
  makeFrom (d + 1)
  pure (s.emit (.tag handle suffix))

/-- The digits of a `%YAML` version number. -/
def versionNumber (s : Scanner) : ScanResult (Scanner × Nat) :=
  let n := s.span 0 isDigitChar
  if n == 0 then .error .malformed
  else
    match Numeral.readDecimalInt (s.aheadText n) with
    | .ok v => .ok (s.advance n, v.toNat)
    | .error e => .error (.numeral e)

/-- A directive line, scanned by a step at depth `d` and the step for directives above it: its
name, then for `YAML` a version and for `TAG` a handle and a prefix, then an optional comment and
the line break. -/
def fetchDirective (s : Scanner) (d : Nat) : ScanResult Scanner := do
  enter d .step
  let before := s
  let s := s.unwindIndent (-1)
  unwoundFrom before s d
  let s ← s.removeKey (d + 1)
  enter (d + 1) .step
  markFrom (d + 1)
  enter (d + 3) .step
  let s := { s with allowSimpleKey := false }.advance 1
  let n := s.span 0 isNameChar
  if n == 0 then throw .malformed
  let name := s.aheadString n
  let s := s.advance n
  if !isSpaceZ (s.peek 0) then throw .malformed
  let (s, dir) ←
    if name == "YAML" then do
      let s := s.skipSpaces
      let (s, major) ← s.versionNumber
      if s.peek 0 != '.' then throw .malformed
      let (s, minor) ← (s.advance 1).versionNumber
      if !isSpaceZ (s.peek 0) then throw .malformed
      pure (s, Directive.yaml major minor)
    else if name == "TAG" then do
      let s := s.skipSpaces
      let (s, handle) ← s.tagHandle
      if s.peek 0 != ' ' then throw .malformed
      let s := s.skipSpaces
      let (s, pfx) ← s.tagUri
      if !isSpaceZ (s.peek 0) then throw .malformed
      pure (s, Directive.tag handle pfx)
    else pure (s.skipLine, Directive.other)
  let s := s.skipSpaces
  let s := if s.peek 0 == '#' then s.skipLine else s
  if !isBreakZ (s.peek 0) then throw .malformed
  markFrom (d + 1)
  makeFrom (d + 1)
  pure (s.lineBreak.1.emit (.directive dir))

/-! ### Quoted scalars -/

/-- A line break read by a step at depth `d`, from `s` to `after`: the reading takes two frames,
and one more when the break ends the stream. -/
def breakFrom (s after : Scanner) (d : Nat) : ScanResult Unit := do
  enter (d + 2) .step
  if s.pos < after.pos && s.input.size ≤ after.pos then enter (d + 3) .step

/-- Line breaks inside a quoted scalar, with the indentation after them, read by a step at depth
`d + 2` of the scan of a quoted scalar at depth `d`; a document separator there is an error. -/
def quotedBreaks (d : Nat) (s : Scanner) (acc : Text) : Nat → ScanResult (Scanner × Text)
  | 0 => .ok (s, acc)
  | fuel + 1 => do
    if s.input.size < s.pos + 3 then enter (d + 4) .step
    if s.atSeparator then faultFrom (d + 2)
    else
      let s := s.advance (s.span 0 fun c => c == ' ' || c == '\t')
      if isBreak (s.peek 0) then
        let (after, br) := s.lineBreak
        breakFrom s after (d + 2)
        quotedBreaks d after (acc ++ br) fuel
      else pure (s, acc)

/-- The code points of a quoted scalar up to its next blank, escapes decoded, read by a step at
depth `d + 1` of the scan of a quoted scalar at depth `d`. -/
def quotedRun (d : Nat) (double : Bool) (s : Scanner) (acc : Text) :
    Nat → ScanResult (Scanner × Text)
  | 0 => .ok (s, acc)
  | fuel + 1 =>
    let n := s.span 0 fun c => !(c == apostrophe || c == '"' || c == '\\' || isBlankZ c)
    let acc := acc ++ s.aheadText n
    let s := s.advance n
    let ch := s.peek 0
    if !double && ch == apostrophe && s.peek 1 == apostrophe then
      quotedRun d double (s.advance 2) (acc ++ [.char apostrophe]) fuel
    else if (double && ch == apostrophe) || (!double && (ch == '"' || ch == '\\')) then
      quotedRun d double (s.advance 1) (acc ++ [.char ch]) fuel
    else if double && ch == '\\' then
      let s := s.advance 1
      let ch := s.peek 0
      match escapeChar? ch with
      | some e => quotedRun d double (s.advance 1) (acc ++ [.char e]) fuel
      | none =>
        match escapeLength? ch with
        | some len =>
          let s := s.advance 1
          match (s.ahead len).mapM hexDigitValue? with
          | some ds =>
            if ds.length != len then faultFrom (d + 1)
            else
              let code := ds.foldl (fun n d => 16 * n + d) 0
              if code > 0x10FFFF then .error .codePoint
              else quotedRun d double (s.advance len) (acc ++ [Point.ofCode code]) fuel
          | none => faultFrom (d + 1)
        | none =>
          if isBreak ch then do
            let (after, _) := s.lineBreak
            breakFrom s after (d + 1)
            let (s, brs) ← quotedBreaks d after [] (s.input.size + 1)
            quotedRun d double s (acc ++ brs) fuel
          else faultFrom (d + 1)
    else .ok (s, acc)

/-- Blanks and line breaks inside a quoted scalar, folded, read by a step at depth `d + 1` of
the scan of a quoted scalar at depth `d`: one line break becomes a space, more keep all but the
first. -/
def quotedSpaces (d : Nat) (s : Scanner) : ScanResult (Scanner × Text) := do
  let n := s.span 0 fun c => c == ' ' || c == '\t'
  let ws := s.aheadText n
  let s := s.advance n
  let ch := s.peek 0
  if ch == eof then faultFrom (d + 1)
  else if isBreak ch then
    let (after, br) := s.lineBreak
    breakFrom s after (d + 1)
    let (s, brs) ← quotedBreaks d after [] (s.input.size + 1)
    let head : Text := if br != "\n" then br else if brs.isEmpty then " " else []
    pure (s, head ++ brs)
  else pure (s, ws)

/-- The rest of a quoted scalar up to its closing quote, scanned at depth `d`. -/
def quotedBody (d : Nat) (double : Bool) (quote : Char) (s : Scanner) (acc : Text) :
    Nat → ScanResult (Scanner × Text)
  | 0 => .ok (s, acc)
  | fuel + 1 =>
    if s.peek 0 == quote then .ok (s, acc)
    else do
      let (s, sp) ← quotedSpaces d s
      let (s, acc) ← quotedRun d double s (acc ++ sp) (s.input.size + 1)
      quotedBody d double quote s acc fuel

/-- A single- or double-quoted scalar, scanned by a step at depth `d`, the step for quoted
scalars above it and the scan of the scalar above that. -/
def fetchQuoted (s : Scanner) (double : Bool) (d : Nat) : ScanResult Scanner := do
  enter (d + 1) .step
  let s ← s.saveKey (d + 2)
  let e := d + 2
  enter e .step
  markFrom e
  let s := { s with allowSimpleKey := false }
  let quote := s.peek 0
  s.forwardFrom e 1
  let s := s.advance 1
  let (s, acc) ← quotedRun e double s [] (s.input.size + 1)
  let (s, acc) ← quotedBody e double quote s acc (s.input.size + 1)
  s.forwardFrom e 1
  markFrom e
  makeFrom e
  pure ((s.advance 1).emit (.scalar acc false))

/-! ### Plain scalars -/

/-- How many characters of a plain scalar come before its next blank or indicator. -/
def plainLength (s : Scanner) : Nat :=
  go 0 (s.input.size + 1)
where
  /-- One character at a time. -/
  go (k : Nat) : Nat → Nat
    | 0 => k
    | fuel + 1 =>
      let ch := s.peek k
      let next := s.peek (k + 1)
      if isBlankZ ch ||
          (ch == ':' && (isBlankZ next || (s.flowLevel != 0 && (next == ',' || isFlowBracket next)))) ||
          (s.flowLevel != 0 && (ch == ',' || ch == '?' || isFlowBracket ch)) then k
      else go (k + 1) fuel

/-- Line breaks and indentation inside a plain scalar; `true` when a document separator
ends it. -/
def plainBreaks (s : Scanner) (acc : Text) : Nat → Scanner × Text × Bool
  | 0 => (s, acc, false)
  | fuel + 1 =>
    let ch := s.peek 0
    if ch == ' ' then plainBreaks (s.advance 1) acc fuel
    else if isBreak ch then
      let (s, br) := s.lineBreak
      if s.atSeparator then (s, acc ++ br, true) else plainBreaks s (acc ++ br) fuel
    else (s, acc, false)

/-- The spaces after a run of a plain scalar, folded as in quoted scalars; `none` when they
end the scalar. -/
def plainSpaces (s : Scanner) : Scanner × Option Text :=
  let n := s.span 0 (· == ' ')
  let ws := s.aheadText n
  let s := s.advance n
  if isBreak (s.peek 0) then
    let (s, br) := s.lineBreak
    let s := { s with allowSimpleKey := true }
    if s.atSeparator then (s, none)
    else
      let (s, brs, stop) := plainBreaks s [] (s.input.size + 1)
      if stop then (s, none)
      else (s, some ((if br != "\n" then br else if brs.isEmpty then " " else []) ++ brs))
  else if ws.isEmpty then (s, none)
  else (s, some ws)

/-- The runs of a plain scalar: it ends at a comment, at an indicator, or at a line less
indented than the block it is in. -/
def plainRuns (indent : Int) (s : Scanner) (acc spaces : Text) : Nat → Scanner × Text
  | 0 => (s, acc)
  | fuel + 1 =>
    if s.peek 0 == '#' then (s, acc)
    else
      let n := s.plainLength
      if n == 0 then (s, acc)
      else
        let acc := acc ++ spaces ++ s.aheadText n
        let s := { s with allowSimpleKey := false }.advance n
        match s.plainSpaces with
        | (s, none) => (s, acc)
        | (s, some sp) =>
          if s.peek 0 == '#' || (s.flowLevel == 0 && (s.column : Int) < indent) then (s, acc)
          else plainRuns indent s acc sp fuel

/-- A plain scalar, scanned by a step at depth `d` and the scan of the scalar above it. The
line breaks it reads are read two frames above that, and one that ends the stream takes one
frame more. -/
def fetchPlain (s : Scanner) (d : Nat) : ScanResult Scanner := do
  enter d .step
  let s ← s.saveKey (d + 1)
  enter (d + 1) .step
  markFrom (d + 1)
  let start := s.pos
  let s := { s with allowSimpleKey := false }
  let (s, text) := plainRuns (s.indent + 1) s [] [] (s.input.size + 1)
  if s.brokeAtEnd start then enter (d + 5) .step
  makeFrom (d + 1)
  pure (s.emit (.scalar text true))

/-! ### Block scalars -/

/-- Consumes indentation up to `indent` and the empty lines after it. -/
def blockBreaks (indent : Nat) (s : Scanner) (acc : Text) : Nat → Scanner × Text
  | 0 => (s, acc)
  | fuel + 1 =>
    let s := s.advance (min (s.span 0 (· == ' ')) (indent - s.column))
    if isBreak (s.peek 0) then
      let (s, br) := s.lineBreak
      blockBreaks indent s (acc ++ br) fuel
    else (s, acc)

/-- The leading empty lines of a block scalar and the deepest indentation among them. -/
def blockIndentation (s : Scanner) (acc : Text) (deepest : Nat) : Nat → Scanner × Text × Nat
  | 0 => (s, acc, deepest)
  | fuel + 1 =>
    let ch := s.peek 0
    if ch == ' ' then
      let s := s.advance 1
      blockIndentation s acc (max deepest s.column) fuel
    else if isBreak ch then
      let (s, br) := s.lineBreak
      blockIndentation s (acc ++ br) deepest fuel
    else (s, acc, deepest)

/-- The lines of a block scalar at indentation `indent`; a folded scalar joins lines that do
not start with a blank. Gives the text, the last line break and the trailing empty lines. -/
def blockLines (folded : Bool) (indent : Nat) (s : Scanner) (acc lastBreak breaks : Text) :
    Nat → Scanner × Text × Text × Text
  | 0 => (s, acc, lastBreak, breaks)
  | fuel + 1 =>
    if s.column != indent || s.peek 0 == eof then (s, acc, lastBreak, breaks)
    else
      let leadingNonSpace := !(s.peek 0 == ' ' || s.peek 0 == '\t')
      let n := s.span 0 fun c => !isBreakZ c
      let acc := acc ++ breaks ++ s.aheadText n
      let s := s.advance n
      let (s, br) := s.lineBreak
      let (s, brs) := blockBreaks indent s [] (s.input.size + 1)
      if s.column == indent && s.peek 0 != eof then
        let joined : Text :=
          if folded && br == "\n" && leadingNonSpace && !(s.peek 0 == ' ' || s.peek 0 == '\t') then
            (if brs.isEmpty then " " else [])
          else br
        blockLines folded indent s (acc ++ joined) br brs fuel
      else (s, acc, br, brs)

/-- The chomping and indentation indicators of a block scalar header: `+` keeps the final
line breaks, `-` strips them, and a digit from 1 to 9 gives the indentation. -/
def blockHeader (s : Scanner) : ScanResult (Scanner × Option Bool × Option Nat) := do
  let digit? (c : Char) : Option Nat := if isDigitChar c then some (c.toNat - '0'.toNat) else none
  let chomp? (c : Char) : Option Bool := if c == '+' then some true else if c == '-' then some false else none
  let (s, chomping, increment) ←
    match chomp? (s.peek 0) with
    | some c =>
      let s := s.advance 1
      match digit? (s.peek 0) with
      | some 0 => throw .malformed
      | some d => pure (s.advance 1, some c, some d)
      | none => pure (s, some c, none)
    | none =>
      match digit? (s.peek 0) with
      | some 0 => throw .malformed
      | some d =>
        let s := s.advance 1
        match chomp? (s.peek 0) with
        | some c => pure (s.advance 1, some c, some d)
        | none => pure (s, none, some d)
      | none => pure (s, none, none)
  if !isSpaceZ (s.peek 0) then throw .malformed
  let s := s.skipSpaces
  let s := if s.peek 0 == '#' then s.skipLine else s
  if !isBreakZ (s.peek 0) then throw .malformed
  pure (s.lineBreak.1, chomping, increment)

/-- A literal (`|`) or folded (`>`) block scalar, scanned by a step at depth `d`, the step for
block scalars above it and the scan of the scalar above that, which takes a mark of where the
scalar starts and, for its first lines, one more from a step above it. -/
def fetchBlockScalar (s : Scanner) (folded : Bool) (d : Nat) : ScanResult Scanner := do
  enter (d + 1) .step
  let s ← { s with allowSimpleKey := true }.removeKey (d + 2)
  enter (d + 2) .step
  markFrom (d + 2)
  let minIndent : Nat := (s.indent + 1).toNat.max 1
  s.forwardFrom (d + 2) 1
  let (s, chomping, increment) ← match (s.advance 1).blockHeader with
    | .ok r => pure r
    | .error _ => faultFrom (d + 3)
  markFrom (d + 3)
  let fuel := s.input.size + 1
  let (s, breaks, indent) :=
    match increment with
    | none =>
      let (s, brs, deepest) := blockIndentation s [] 0 fuel
      (s, brs, max minIndent deepest)
    | some d =>
      let indent := minIndent + d - 1
      let (s, brs) := blockBreaks indent s [] fuel
      (s, brs, indent)
  let (s, text, lastBreak, trailing) := blockLines folded indent s [] [] breaks fuel
  let text := match chomping with
    | some false => text
    | some true => text ++ lastBreak ++ trailing
    | none => text ++ lastBreak
  makeFrom (d + 2)
  pure (s.emit (.scalar text false))

/-! ### On demand -/

/-- Whether the next character may begin a plain scalar. -/
def startsPlain (s : Scanner) : Bool :=
  let ch := s.peek 0
  !(isBlankZ ch || isIndicator ch) ||
    (!isBlankZ (s.peek 1) && (ch == '-' || (s.flowLevel == 0 && (ch == '?' || ch == ':'))))

/-- Scans the next token, with the block ends and keys it implies, in a scan at depth `d`:
skipping to the token takes three frames, and a fourth for a line break that ends the stream;
the block ends unwound take a mark and a token each; the scan of the token itself runs one frame
above. -/
def fetchMore (s : Scanner) (d : Nat) : ScanResult Scanner := do
  enter d .step
  enter (d + 3) .step
  let start := s.pos
  let s := s.skipToToken
  if s.brokeAtEnd start then enter (d + 4) .step
  let s ← s.staleKeys (d + 1)
  let before := s
  let s := s.unwindIndent s.column
  unwoundFrom before s d
  let ch := s.peek 0
  let blankAfter := isBlankZ (s.peek 1)
  let e := d + 1
  if ch == eof && s.input.size ≤ s.pos then s.fetchStreamEnd e
  else if ch == '%' && s.column == 0 then s.fetchDirective e
  else if ch == '-' && s.column == 0 && s.ahead 3 == ['-', '-', '-'] && isBlankZ (s.peek 3) then
    s.fetchDocumentIndicator .documentStart e
  else if ch == '.' && s.column == 0 && s.ahead 3 == ['.', '.', '.'] && isBlankZ (s.peek 3) then
    s.fetchDocumentIndicator .documentEnd e
  else if ch == '[' then s.fetchFlowStart .flowSequenceStart e
  else if ch.toNat == 0x7B then s.fetchFlowStart .flowMappingStart e
  else if ch == ']' then s.fetchFlowEnd .flowSequenceEnd e
  else if ch.toNat == 0x7D then s.fetchFlowEnd .flowMappingEnd e
  else if ch == ',' then s.fetchFlowEntry e
  else if ch == '-' && blankAfter then s.fetchBlockEntry e
  else if ch == '?' && (s.flowLevel != 0 || blankAfter) then s.fetchKey e
  else if ch == ':' && (s.flowLevel != 0 || blankAfter) then s.fetchValue e
  else if ch == '*' then s.fetchAnchor true e
  else if ch == '&' then s.fetchAnchor false e
  else if ch == '!' then s.fetchTag e
  else if ch == '|' && s.flowLevel == 0 then s.fetchBlockScalar false e
  else if ch == '>' && s.flowLevel == 0 then s.fetchBlockScalar true e
  else if ch == apostrophe then s.fetchQuoted false e
  else if ch == '"' then s.fetchQuoted true e
  else if s.startsPlain then s.fetchPlain e
  else throw .malformed

/-- Whether the scanner must scan further before handing out its next token, asked at depth
`d`: when nothing is queued, or when the next token may still begin a simple key. -/
def needsMore (s : Scanner) (d : Nat) : ScanResult (Bool × Scanner) := do
  enter d .step
  if s.done then pure (false, s)
  else if s.tokens.isEmpty then pure (true, s)
  else
    let s ← s.staleKeys (d + 1)
    enter (d + 1) .step
    pure (s.nextKeyNumber == some s.taken, s)

/-- Scans until the next token can be handed out, for a request at depth `d`: the question and
each scan stand one frame above it. Each scan consumes a character or ends the stream, so the
characters left bound the rounds. -/
def ensure (s : Scanner) (d : Nat) : ScanResult Scanner := do
  enter d .step
  go s (s.input.size - s.pos + 3)
where
  /-- One scan at a time. -/
  go (s : Scanner) : Nat → ScanResult Scanner
    | 0 => .error .malformed
    | fuel + 1 => do
      let (more, s) ← s.needsMore (d + 1)
      if more then go (← s.fetchMore (d + 1)) fuel else pure s

/-- The next token, scanned if need be, without taking it, for a request at depth `d`. -/
def peekToken (s : Scanner) (d : Nat) : ScanResult (Option Token × Scanner) := do
  let s ← s.ensure d
  pure (s.tokens.head?, s)

/-- Takes the next token, for a request at depth `d`. -/
def takeToken (s : Scanner) (d : Nat) : ScanResult (Option Token × Scanner) := do
  let s ← s.ensure d
  match s.tokens with
  | t :: rest => pure (some t, { s with tokens := rest, taken := s.taken + 1 })
  | [] => pure (none, s)

/-- A scanner over a stream: the stream must hold printable characters only. -/
def ofText (text : String) : ScanResult Scanner :=
  if !text.toList.all isPrintable then .error .malformed
  else .ok { input := text.toList.toArray }

end Scanner

end DocPages.Yaml
