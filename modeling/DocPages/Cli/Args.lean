import DocPages.Text.Basic
import DocPages.Text.Quoted
/-!
# Command-line arguments

The command line is read the way the argparse library reads it. Each argument is first
classified:

- an *option*: it names one of the parser's option strings, or a unique abbreviation of a long
  one, or it joins a value to one with `=` (`--config=x`) or, for a short one, directly
  (`-cx`);
- a *marker* `--`, after which every argument is a positional one;
- a *positional* argument otherwise, which includes `-`, negative numbers and texts with a
  space.

Then options and runs of positional arguments are taken in turn. An option that takes a
value takes the next argument, which must be positional. A run of positional arguments fills
the parser's positional parameters in order; a parameter that takes any number of values takes
the whole run, and is then filled, so a later run is left over. Left-over arguments are
*unrecognized*, and an error.

The subcommand is a positional parameter that takes one name and then everything after it,
which the subcommand's own parser reads.
-/

namespace DocPages.Cli

/-- How many values a positional parameter takes. -/
inductive Arity where
  /-- Exactly one. -/
  | one
  /-- Any number, none included. -/
  | any
  /-- A subcommand name, then every argument after it. -/
  | command
  deriving Repr, DecidableEq, Inhabited

/-- A positional parameter. -/
structure Positional where
  /-- Where its value is kept. -/
  dest : Text
  /-- How many values it takes. -/
  arity : Arity
  deriving Repr, DecidableEq, Inhabited

/-- An option. -/
structure Opt where
  /-- Its option strings, such as `-c` and `--config`. -/
  strings : List Text
  /-- Where its value is kept. -/
  dest : Text
  /-- Whether it takes no value. -/
  switch : Bool := false
  /-- Whether it asks for help. -/
  help : Bool := false
  deriving Repr, DecidableEq, Inhabited

/-- A parser: its name, usage and help texts, options and positional parameters. -/
structure Parser where
  /-- The program name it reports. -/
  prog : Text
  /-- The usage text, without the `usage: ` prefix. -/
  usage : Text
  /-- The full help text. -/
  helpText : Text
  /-- The options. -/
  options : List Opt
  /-- The positional parameters. -/
  positionals : List Positional
  deriving Repr, Inhabited

/-- How reading the arguments stopped early: with an error of a parser, or with a request for
a parser's help. -/
inductive Stop where
  /-- A usage error. -/
  | error (p : Parser) (msg : Text)
  /-- A request for help. -/
  | help (p : Parser)
  deriving Inhabited

/-- How an argument is classified. -/
inductive Piece where
  /-- A positional argument. -/
  | positional
  /-- The marker `--`. -/
  | marker
  /-- An option, if the parser has it, as written, with a value joined to it. -/
  | option (o : Option Opt) (shown : Text) (joined : Option Text)
  deriving Inhabited

/-- The values read so far, by destination, latest last. -/
abbrev Values := List (Text × List Text)

namespace Parser

/-- Each option string with its option. -/
def optionStrings (p : Parser) : List (Text × Opt) :=
  p.options.flatMap fun o => o.strings.map fun s => (s, o)

/-- The option an option string names. -/
def lookup? (p : Parser) (s : Text) : Option Opt :=
  (p.optionStrings.find? (·.1 == s)).map (·.2)

/-- The readings of an option-like argument that names no option exactly: abbreviations of
long options, with a value after `=`; a short option with a value joined to it. -/
def readings (p : Parser) (arg : Text) : List (Opt × Text × Option Text) :=
  match arg with
  | .char '-' :: .char '-' :: _ =>
    let (pre, joined) := match Text.breakAt "=" arg with
      | some (a, b) => (a, some b)
      | none => (arg, none)
    p.optionStrings.filterMap fun (s, o) =>
      if Text.startsWith s pre then some (o, s, joined) else none
  | .char '-' :: c :: rest =>
    let short : Text := [.char '-', c]
    p.optionStrings.filterMap fun (s, o) =>
      if s == short then some (o, s, some rest)
      else if Text.startsWith s arg then some (o, s, none)
      else none
  | _ => []

/-- Whether a text is one or more decimal digits, or decimal digits, a point and one or more
decimal digits. Digits are those of any script. -/
def isUnsignedNumber (t : Text) : Bool :=
  (!t.isEmpty && t.all Text.isDecimal) ||
    match Text.breakAt "." t with
    | some (whole, frac) => whole.all Text.isDecimal && !frac.isEmpty && frac.all Text.isDecimal
    | none => false

/-- Whether a text is a negative number: `-` and an unsigned number, which may be followed by
one line feed that ends the text. -/
def isNegativeNumber (arg : Text) : Bool :=
  match arg with
  | .char '-' :: rest =>
    isUnsignedNumber rest || (Text.endsWith rest "\n" && isUnsignedNumber rest.dropLast)
  | _ => false

/-- How one argument before any marker is classified. -/
def classifyOne (p : Parser) (arg : Text) : Except Stop Piece :=
  match arg with
  | .char '-' :: rest =>
    match p.lookup? arg with
    | some o => .ok (.option (some o) arg none)
    | none =>
      if rest.isEmpty then .ok .positional
      else
        let withValue := match Text.breakAt "=" arg with
          | some (a, b) => (p.lookup? a).map fun o => Piece.option (some o) a (some b)
          | none => none
        match withValue with
        | some piece => .ok piece
        | none =>
          match p.readings arg with
          | [(o, s, j)] => .ok (.option (some o) s j)
          | r :: rs => .error (.error p (Text.ofString "ambiguous option: " ++ arg ++ " could match " ++
              Text.join ", " ((r :: rs).map (·.2.1))))
          | [] =>
            if isNegativeNumber arg || arg.any (· == .char ' ') then .ok .positional
            else .ok (.option none arg none)
  | _ => .ok .positional

/-- How the arguments are classified: after a marker, all are positional. -/
def classify (p : Parser) : List Text → Except Stop (List Piece)
  | [] => .ok []
  | arg :: rest =>
    if arg == Text.ofString "--" then .ok (.marker :: rest.map fun _ => .positional)
    else do
      let piece ← p.classifyOne arg
      let pieces ← p.classify rest
      pure (piece :: pieces)

end Parser

/-- The name an option is reported under: its option strings joined by `/`. -/
def Opt.shownName (o : Opt) : Text := Text.join "/" o.strings

/-- The arguments with the first marker removed. -/
def dropMarker : List Text → List Text
  | [] => []
  | a :: rest => if a == Text.ofString "--" then rest else a :: dropMarker rest

/-- What reading the arguments gives: the values, the arguments left over, and the positional
parameters left unfilled. -/
structure Reading where
  /-- The values, by destination. -/
  values : Values := []
  /-- The arguments left over. -/
  extras : List Text := []
  /-- The positional parameters not yet filled. -/
  pending : List Positional
  deriving Inhabited

/-- How a subcommand's arguments are read: its values and left-over arguments. -/
abbrev CommandReader := Text → List Text → Except Stop (Values × List Text)

/-- Whether the piece at `i` is a positional argument. -/
def isPositionalAt (pieces : Array Piece) (i : Nat) : Bool :=
  match pieces[i]? with
  | some .positional => true
  | _ => false

/-- Whether the piece at `i` is a marker. -/
def isMarkerAt (pieces : Array Piece) (i : Nat) : Bool :=
  match pieces[i]? with
  | some .marker => true
  | _ => false

/-- How many pieces from `i` on satisfy `ok`. -/
def runLength (pieces : Array Piece) (ok : Array Piece → Nat → Bool) (i : Nat) : Nat :=
  ((List.range (pieces.size - i)).takeWhile fun k => ok pieces (i + k)).length

/-- Fills the positional parameters `pending` from the arguments at `start`, in order, as far
as they fit; gives the reading and where the arguments taken end. -/
def takePositionals (cmd : CommandReader) (pieces : Array Piece) (args : Array Text) :
    List Positional → Nat → Reading → Except Stop (Reading × Nat)
  | [], start, r => .ok ({ r with pending := [] }, start)
  | pos :: rest, start, r =>
    let slice (a n : Nat) : List Text := (args.extract a (a + n)).toList
    let lead := runLength pieces isMarkerAt start
    match pos.arity with
    | .one =>
      if isPositionalAt pieces (start + lead) then
        let n := lead + 1 + runLength pieces isMarkerAt (start + lead + 1)
        takePositionals cmd pieces args rest (start + n)
          { r with values := r.values ++ [(pos.dest, dropMarker (slice start n))] }
      else .ok ({ r with pending := pos :: rest }, start)
    | .any =>
      let n := runLength pieces (fun ps i => isPositionalAt ps i || isMarkerAt ps i) start
      takePositionals cmd pieces args rest (start + n)
        { r with values := r.values ++ [(pos.dest, dropMarker (slice start n))] }
    | .command =>
      if isPositionalAt pieces (start + lead) then
        match slice start (pieces.size - start) with
        | name :: more =>
          match cmd name more with
          | .ok (vs, ex) =>
            takePositionals cmd pieces args rest pieces.size
              { r with values := r.values ++ [(pos.dest, [name])] ++ vs, extras := r.extras ++ ex }
          | .error e => .error e
        | [] => .ok ({ r with pending := pos :: rest }, start)
      else .ok ({ r with pending := pos :: rest }, start)

/-- Takes the option at `i`, with its value; gives the reading and the index after it. -/
def takeOption (p : Parser) (pieces : Array Piece) (args : Array Text) (i : Nat) (r : Reading) :
    Except Stop (Reading × Nat) :=
  match pieces[i]? with
  | some (.option none _ _) => .ok ({ r with extras := r.extras ++ [args.getD i []] }, i + 1)
  | some (.option (some o) shown joined) => go o shown joined (shown.length + 1) r
  | _ => .ok (r, i + 1)
where
  /-- The option `o`, then the short switches joined after it. -/
  go (o : Opt) (shown : Text) (joined : Option Text) : Nat → Reading → Except Stop (Reading × Nat)
    | 0, r => .ok (r, i + 1)
    | fuel + 1, r =>
      if o.help then .error (.help p)
      else
        match joined with
        | some j =>
          if o.switch then
            if (shown.drop 1).head? != some (.char '-') && !j.isEmpty then
              let r := { r with values := r.values ++ [(o.dest, [])] }
              let next : Text := [.char '-', j.headD (.char ' ')]
              let rest := j.drop 1
              match p.lookup? next with
              | some o' => go o' next (if rest.isEmpty then none else some rest) fuel r
              | none => .error (.error p (Text.ofString "argument " ++ o.shownName ++
                  ": ignored explicit argument " ++ Text.quoted j))
            else .error (.error p (Text.ofString "argument " ++ o.shownName ++
              ": ignored explicit argument " ++ Text.quoted j))
          else .ok ({ r with values := r.values ++ [(o.dest, [j])] }, i + 1)
        | none =>
          if o.switch then .ok ({ r with values := r.values ++ [(o.dest, [])] }, i + 1)
          else if isPositionalAt pieces (i + 1) then
            .ok ({ r with values := r.values ++ [(o.dest, [args.getD (i + 1) []])] }, i + 2)
          else .error (.error p (Text.ofString "argument " ++ o.shownName ++ ": expected one argument"))

/-- Whether the piece at `i` is an option. -/
def isOptionAt (pieces : Array Piece) (i : Nat) : Bool :=
  match pieces[i]? with
  | some (.option _ _ _) => true
  | _ => false

/-- Reads from index `i`: runs of positional arguments before each option, then the option,
until no option is left; then the last run. -/
def readFrom (p : Parser) (cmd : CommandReader) (pieces : Array Piece) (args : Array Text) :
    Nat → Nat → Reading → Except Stop Reading
  | 0, _, r => .ok r
  | fuel + 1, i, r => do
    let nextOption := (List.range (pieces.size - i)).find? fun k => isOptionAt pieces (i + k)
    match nextOption with
    | none =>
      let (r, stop) ← takePositionals cmd pieces args r.pending i r
      pure { r with extras := r.extras ++ (args.extract stop args.size).toList }
    | some k =>
      let (r, i) ←
        if k == 0 then pure (r, i)
        else do
          let (r', j) ← takePositionals cmd pieces args r.pending i r
          if j > i then
            -- the run was taken; the next round looks for an option again
            pure (r', j)
          else pure ({ r' with extras := r'.extras ++ (args.extract i (i + k)).toList }, i + k)
      if isOptionAt pieces i then
        let (r, j) ← takeOption p pieces args i r
        readFrom p cmd pieces args fuel j r
      else readFrom p cmd pieces args fuel i r

/-- Reads the arguments with parser `p`; `cmd` reads a subcommand's arguments. Unfilled
parameters that need a value are an error. -/
def read (p : Parser) (cmd : CommandReader) (argv : List Text) : Except Stop (Values × List Text) := do
  let pieces ← p.classify argv
  let r ← readFrom p cmd pieces.toArray argv.toArray (argv.length + 2) 0 { pending := p.positionals }
  let missing := r.pending.filter fun pos => pos.arity != .any
  if !missing.isEmpty then
    throw (.error p (Text.ofString "the following arguments are required: " ++
      Text.join ", " (missing.map (·.dest))))
  pure (r.values, r.extras)

/-- The last value kept for `dest`. -/
def Values.last? (vs : Values) (dest : Text) : Option (List Text) :=
  (vs.reverse.find? (·.1 == dest)).map (·.2)

end DocPages.Cli
