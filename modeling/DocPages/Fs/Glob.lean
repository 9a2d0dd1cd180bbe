import DocPages.Fs.Tree
/-!
# Name patterns

Shell-style patterns matched against a whole name, case-sensitively: `*` matches any run of
characters, `?` any one character, `[...]` one character of a set and `[!...]` one character
outside it; a `[` without a closing `]` is itself. In a set, `a-z` is a range, a hyphen first or
last is itself, a range whose ends are in descending order drops out, and nothing else is
special.

A path pattern is a list of name patterns, one per segment, each matched against the entries
of the directories the segments before it reached; `**` stands for the directory and all
directories below it, and a segment without wildcard characters names a child directly, so
`..` steps out. Every segment but the last selects directories only, and a trailing separator
makes the last one do so too. Paths found more than once below a `**` are kept once.
-/

namespace DocPages

/-- One element of a name pattern. -/
inductive PatternItem where
  /-- `*`: any run of characters. -/
  | star
  /-- `?`: any one character. -/
  | one
  /-- A character matched as itself. -/
  | lit (c : Point)
  /-- `[...]`: one character of closed ranges, or outside them when negated. -/
  | set (negated : Bool) (ranges : List (Point × Point))
  deriving Repr, DecidableEq, Inhabited

namespace Pattern

/-- The chunks of a set's text between the hyphens that make ranges, as a name pattern splits
them: a hyphen right after the opening (or after `!`) and a hyphen right after a range are not
range hyphens. `acc` holds the current chunk reversed; `fresh` counts the characters of the
current chunk still too early to be followed by a range hyphen. -/
def chunksAux (acc : Text) (fresh : Nat) : Text → List Text
  | [] => [acc.reverse]
  | c :: rest =>
    match fresh with
    | k + 1 => chunksAux (c :: acc) k rest
    | 0 => if c == .char '-' then acc.reverse :: chunksAux [] 2 rest else chunksAux (c :: acc) 0 rest

/-- The chunks of a set's text; an empty last chunk makes its hyphen part of the one before. -/
def chunks (stuff : Text) : List Text :=
  let cs := chunksAux [] (if stuff.head? == some (.char '!') then 2 else 1) stuff
  match cs.reverse with
  | [] :: prev :: earlier => (earlier.reverse ++ [prev ++ [.char '-']])
  | _ => cs

/-- Chunks with each descending range removed together with its two ends, from the right. -/
def dropDescending : List Text → List Text
  | [] => []
  | c :: rest =>
    match dropDescending rest with
    | d :: ds =>
      match c.getLast?, d.head? with
      | some a, some b => if b.code < a.code then (c.dropLast ++ d.drop 1) :: ds else c :: d :: ds
      | _, _ => c :: d :: ds
    | [] => [c]

/-- The ranges a sequence of joined chunks denotes: the characters of the chunks, the last
character of each chunk and the first of the next making one range. -/
def rangesOf : List Text → List (Point × Point)
  | [] => []
  | [c] => c.map fun x => (x, x)
  | c :: d :: rest =>
    match c.getLast?, d with
    | some a, b :: d' => (c.dropLast.map fun x => (x, x)) ++ [(a, b)] ++ rangesOf (d' :: rest)
    | _, _ => (c.map fun x => (x, x)) ++ rangesOf (d :: rest)
termination_by cs => cs.length
/-- The set item for the text between `[` and `]`. -/
def setItem (stuff : Text) : PatternItem :=
  let negated := stuff.head? == some (.char '!')
  let joined := if stuff.any (· == .char '-') then dropDescending (chunks stuff) else [stuff]
  let flat := joined.flatten
  if flat.isEmpty then .set false []
  else if flat == [.char '!'] then .set true []
  else
    match joined with
    | (.char '!' :: first) :: rest => .set true (rangesOf (first :: rest))
    | _ => .set negated (rangesOf joined)

/-- The text of a set that starts at `cs`, up to the `]` that closes it, and how many
characters the set takes with that `]`: a `]` first (after an optional `!`) belongs to the
set. -/
def closeSet (cs : Text) : Option (Text × Nat) :=
  let (lead, rest) : Text × Text := match cs with
    | .char '!' :: .char ']' :: r => ("!]", r)
    | .char '!' :: r => ("!", r)
    | .char ']' :: r => ("]", r)
    | r => ([], r)
  match rest.span (· != .char ']') with
  | (inner, .char ']' :: _) => some (lead ++ inner, lead.length + inner.length + 1)
  | _ => none

/-- The items of a name pattern. -/
def parse : Text → List PatternItem
  | [] => []
  | .char '*' :: rest => .star :: parse rest
  | .char '?' :: rest => .one :: parse rest
  | .char '[' :: rest =>
    match closeSet rest with
    | some (stuff, n) => setItem stuff :: parse (rest.drop n)
    | none => .lit (.char '[') :: parse rest
  | c :: rest => .lit c :: parse rest
termination_by cs => cs.length

/-- Whether one character matches a pattern item other than `*`. -/
def itemMatches (c : Point) : PatternItem → Bool
  | .star => true
  | .one => true
  | .lit d => c == d
  | .set negated ranges => negated != ranges.any fun r => r.1.code ≤ c.code && c.code ≤ r.2.code

/-- The positions of a pattern reached without reading a character from those marked: the
position after a `*` is reached whenever the `*` is, as it may match nothing. Position `i` is
the point before item `i`; the last position is the end of the pattern. -/
def closeStars : List PatternItem → List Bool → List Bool
  | p :: ps, a :: b :: rest => a :: closeStars ps ((b || (a && p == .star)) :: rest)
  | _, marks => marks

/-- The positions reached from the marked ones by reading the character `c`: a `*` stays where
it is, any other item that matches `c` moves past itself. `carry` tells whether the item before
the first position moved past itself. -/
def readChar (c : Point) (carry : Bool) : List PatternItem → List Bool → List Bool
  | p :: ps, a :: rest =>
    (carry || (a && p == .star)) :: readChar c (a && p != .star && itemMatches c p) ps rest
  | _, _ => [carry]

/-- The positions reached after reading a text from the start of the pattern. -/
def reached (ps : List PatternItem) (cs : Text) : List Bool :=
  cs.foldl (fun marks c => closeStars ps (readChar c false ps marks))
    (closeStars ps (true :: ps.map fun _ => false))

/-- Whether the items match the whole text: the end of the pattern is reached after reading
it. Every way of matching is followed at once, so the time grows with the product of the
lengths, never more. -/
def matchItems (ps : List PatternItem) (cs : Text) : Bool :=
  (reached ps cs).getLast? == some true

end Pattern

/-- Whether `name` matches the shell-style pattern `pat` as a whole. -/
def nameMatches (pat name : Text) : Bool :=
  Pattern.matchItems (Pattern.parse pat) name

/-- Whether a pattern segment holds a wildcard character. -/
def hasWildcard (seg : Text) : Bool :=
  seg.any fun c => c == .char '*' || c == .char '?' || c == .char '['

/-- Why a path pattern cannot be used. -/
inductive GlobError where
  /-- The pattern is empty. -/
  | empty
  /-- The pattern starts at a root. -/
  | absolute
  /-- The pattern has no segments, such as `.`. -/
  | noSegments
  /-- The pattern has no segments but ends with a separator, such as `./`. -/
  | onlySeparator
  /-- A segment holds `**` beside other characters. -/
  | recursiveInSegment
  /-- Asking the system about a path on the way failed. -/
  | io (e : IoError)
  deriving Repr, DecidableEq, Inhabited

/-- The error's message. -/
def GlobError.message : GlobError → Text
  | .empty => "Unacceptable pattern: ''"
  | .absolute => "Non-relative patterns are unsupported"
  | .noSegments => "tuple index out of range"
  | .onlySeparator => "'_TerminatingSelector' object has no attribute 'select_from'"
  | .recursiveInSegment => "Invalid pattern: '**' can only be an entire path component"
  | .io e => e.message

/-- A compiled path pattern: what each segment selects below the path reached so far. -/
inductive Selector where
  /-- The path reached so far. -/
  | here
  /-- The child of that name, a directory when `dirOnly` holds. -/
  | named (name : Text) (dirOnly : Bool) (next : Selector)
  /-- Every child the pattern matches, directories only when `dirOnly` holds. -/
  | matching (pat : List PatternItem) (dirOnly : Bool) (next : Selector)
  /-- The path and every directory below it. -/
  | descend (next : Selector)
  deriving Repr, Inhabited

/-- The selector of the segments from one that is not the first on; an empty segment, which a
trailing separator leaves, selects the path reached. -/
def Selector.ofSegments : List Text → Except GlobError Selector
  | [] => .ok .here
  | seg :: rest =>
    if seg.isEmpty then .ok .here
    else if seg == Text.ofString "**" then .descend <$> ofSegments rest
    else if Text.contains seg "**" then .error .recursiveInSegment
    else if hasWildcard seg then .matching (Pattern.parse seg) (!rest.isEmpty) <$> ofSegments rest
    else .named seg (!rest.isEmpty) <$> ofSegments rest

/-- The selector of a relative path pattern. A trailing separator adds an empty segment, so
that the last named segment must be a directory. -/
def Selector.ofPattern (pattern : Text) : Except GlobError Selector := do
  if pattern.isEmpty then throw .empty
  let p := PurePath.ofText pattern
  if p.isAbsolute then throw .absolute
  let segs := p.parts ++ (if pattern.getLast? == some (.char '/') then [[]] else [])
  match segs with
  | [] => throw .noSegments
  | [] :: _ => throw .onlySeparator
  | _ => ofSegments segs

namespace Tree

/-- The path `p` with one more name. -/
def childPath (p : PurePath) (name : Text) : PurePath :=
  { p with parts := p.parts ++ [name] }

/-- The directory at `p` and every directory below it, in pre-order, as paths from `p`. -/
def dirsBelow (t : Tree) (cwd : List Text) (p : PurePath) : List PurePath :=
  match t.reach cwd p with
  | .ok loc => go (t.nodes.length + 1) loc p
  | .error _ => []
where
  /-- Directories from location `loc`, written `p`, down, with `fuel` bounding the depth. -/
  go : Nat → List Text → PurePath → List PurePath
    | 0, _, _ => []
    | fuel + 1, loc, p => p :: (t.entries loc).flatMap fun n =>
        if t.isDirAt (loc ++ [n]) then go fuel (loc ++ [n]) (childPath p n) else []

/-- The paths from `p`, a directory, that a selector selects. A child named directly is asked
for, and asking may fail; children matched by a pattern are read from the directory. -/
def select (t : Tree) (cwd : List Text) : Selector → PurePath → Except IoError (List PurePath)
  | .here, p => .ok [p]
  | .named name dirOnly next, p => do
    let q := childPath p name
    if ← (if dirOnly then t.probeDir cwd q else t.probeExists cwd q) then t.select cwd next q
    else pure []
  | .matching pat dirOnly next, p =>
    match t.reach cwd p with
    | .error _ => .ok []
    | .ok loc => do
      let names := (t.entries loc).filter fun n =>
        (!dirOnly || t.isDirAt (loc ++ [n])) && Pattern.matchItems pat n
      let found ← names.mapM fun n => t.select cwd next (childPath p n)
      pure found.flatten
  | .descend next, p => do
    let found ← (t.dirsBelow cwd p).mapM (t.select cwd next)
    pure found.flatten.eraseDups

/-- The paths below the directory `dir` that a relative path pattern matches, sorted by their
segments; none when `dir` is not a directory. -/
def glob (t : Tree) (cwd : List Text) (dir : PurePath) (pattern : Text) :
    Except GlobError (List PurePath) := do
  let sel ← Selector.ofPattern pattern
  if !(← (t.probeDir cwd dir).mapError .io) then return []
  let found ← (t.select cwd sel dir).mapError .io
  return found.mergeSort PurePath.le

end Tree

end DocPages
