import DocPages.Cli.Args
import DocPages.Config
import DocPages.Scan
import DocPages.Publish
import DocPages.Doc.Dump
import DocPages.Json.Writer
/-!
# Running the command line

`refdoc` has three commands. `resolve NAME` prints the address and text a reference
resolves to. `index` prints the page index of the sources as JSON. `publish` resolves the
references, groups the symbols into pages and, given an output directory, writes the site. The
sources are the ones given, or the configured ones; `--symbols` reads a symbol dump instead.
Pages are rendered by the template engine the run is given.

A run is a step over a session: it prints, logs and writes files, and ends with an exit code:
0 on success, 1 when the run fails in a way it reports, 2 for a usage error. Log records go
to standard error, debug ones only with `-v`; with `--log-file` they also go to the end of that
file, which is opened, and made if need be, before anything else happens.

A failure the run does not report itself stops it with its cause (`Failure`): a configuration
that cannot be read for a reason other than its form, a source that cannot be named, a symbol
dump that cannot be read for a reason other than a missing file, its encoding or its form, and
a site that cannot be written for a reason other than a missing template or a failed file
operation.
-/

namespace DocPages.Cli

/-! ### The parsers -/

/-- `-h`, `--help`. -/
def helpOpt : Opt := { strings := ["-h", "--help"], dest := "help", switch := true, help := true }

/-- `-v`, `--verbose`. -/
def verboseOpt : Opt := { strings := ["-v", "--verbose"], dest := "verbose", switch := true }

/-- `--log-file`. -/
def logFileOpt : Opt := { strings := ["--log-file"], dest := "log_file" }

/-- `--symbols`. -/
def symbolsOpt : Opt := { strings := ["--symbols"], dest := "symbols" }

/-- `-c`, `--config`. -/
def configOpt : Opt := { strings := ["-c", "--config"], dest := "config" }

/-- `-t`, `--template-dir`. -/
def templateDirOpt : Opt := { strings := ["-t", "--template-dir"], dest := "template_dir" }

/-- `-d`, `--output-dir`. -/
def outputDirOpt : Opt := { strings := ["-d", "--output-dir"], dest := "output_dir" }

/-- `--memberof`. -/
def memberofOpt : Opt := { strings := ["--memberof"], dest := "memberof" }

/-- The lines of a text, each followed by a line break. -/
def textOfLines (lines : List Text) : Text :=
  lines.foldr (fun l acc => l ++ Text.ofString "\n" ++ acc) []

/-- The help lines of the common options. -/
def commonHelp : List Text :=
  ["options:",
   "  -h, --help            show this help message and exit",
   "  -v, --verbose         Increase log verbosity for troubleshooting.",
   "  --log-file LOG_FILE   Also write log records to this file."]

/-- The help lines of the input options. -/
def inputHelp : List Text :=
  ["  --symbols SYMBOLS     Read symbols from a JSON dump instead of parsing",
   "                        sources.",
   "  -c CONFIG, --config CONFIG",
   "                        Path to .refdoc.yml or the directory containing it."]

/-- The help lines of the sources parameter. -/
def sourcesHelp : List Text :=
  ["positional arguments:",
   "  sources               JavaScript files or directories to document (defaults",
   "                        to configured sources).",
   ""]

/-- The parser of the program's own options and its command. -/
def mainParser : Parser :=
  let usage : Text := "refdoc [-h] [-v] [--log-file LOG_FILE] \x7bpublish,resolve,index\x7d ..."
  { prog := "refdoc", usage,
    helpText := textOfLines ([Text.ofString "usage: " ++ usage, "",
      "Publish cross-linked HTML reference pages from documented JavaScript.", "",
      "positional arguments:",
      "  \x7bpublish,resolve,index\x7d",
      "    publish             Resolve references, group symbols into pages and write",
      "                        them.",
      "    resolve             Show the URL a single @see reference resolves to.",
      "    index               Print the page index as JSON without writing pages.",
      ""] ++ commonHelp),
    options := [helpOpt, verboseOpt, logFileOpt],
    positionals := [⟨"command", .command⟩] }

/-- The parser of `publish`. -/
def publishParser : Parser :=
  let usage : Text := Text.ofString "refdoc publish [-h] [-v] [--log-file LOG_FILE] [--symbols SYMBOLS]\n" ++
    Text.ofString "                      [-c CONFIG] [-t TEMPLATE_DIR] [-d OUTPUT_DIR]\n" ++
    Text.ofString "                      [sources ...]"
  { prog := "refdoc publish", usage,
    helpText := textOfLines ([Text.ofString "usage: " ++ usage, ""] ++ sourcesHelp ++ commonHelp ++ inputHelp ++
      ([Text.ofString "  -t TEMPLATE_DIR, --template-dir TEMPLATE_DIR",
       "                        Directory holding the page template and static assets.",
       "  -d OUTPUT_DIR, --output-dir OUTPUT_DIR",
       "                        Directory pages are written to; nothing is written",
       "                        without one."] : List Text)),
    options := [helpOpt, verboseOpt, logFileOpt, symbolsOpt, configOpt, templateDirOpt, outputDirOpt],
    positionals := [⟨"sources", .any⟩] }

/-- The parser of `resolve`. -/
def resolveParser : Parser :=
  let usage : Text := Text.ofString "refdoc resolve [-h] [-v] [--log-file LOG_FILE] [--memberof MEMBEROF]\n" ++
    Text.ofString "                      [-c CONFIG]\n" ++
    Text.ofString "                      name"
  { prog := "refdoc resolve", usage,
    helpText := textOfLines ([Text.ofString "usage: " ++ usage, "",
      "positional arguments:",
      "  name                  Reference text, e.g. res.write or #reset.", ""] ++ commonHelp ++
      ([Text.ofString "  --memberof MEMBEROF   Owner of the symbol carrying the reference.",
       "  -c CONFIG, --config CONFIG",
       "                        Path to .refdoc.yml or the directory containing it."] : List Text)),
    options := [helpOpt, verboseOpt, logFileOpt, memberofOpt, configOpt],
    positionals := [⟨"name", .one⟩] }

/-- The parser of `index`. -/
def indexParser : Parser :=
  let usage : Text := Text.ofString "refdoc index [-h] [-v] [--log-file LOG_FILE] [--symbols SYMBOLS]\n" ++
    Text.ofString "                    [-c CONFIG]\n" ++
    Text.ofString "                    [sources ...]"
  { prog := "refdoc index", usage,
    helpText := textOfLines ([Text.ofString "usage: " ++ usage, ""] ++ sourcesHelp ++ commonHelp ++ inputHelp),
    options := [helpOpt, verboseOpt, logFileOpt, symbolsOpt, configOpt],
    positionals := [⟨"sources", .any⟩] }

/-- The commands by name. -/
def commandParsers : List (Text × Parser) :=
  [("publish", publishParser), ("resolve", resolveParser), ("index", indexParser)]

/-! ### Requests -/

/-- A command. -/
inductive Command where
  /-- Write the site. -/
  | publish
  /-- Resolve one reference. -/
  | resolve
  /-- Print the page index. -/
  | index
  deriving Repr, DecidableEq, Inhabited

/-- What a command line asks for. Empty texts stand for options not given. -/
structure Request where
  /-- The command. -/
  command : Command
  /-- Whether debug records are shown. -/
  verbose : Bool := false
  /-- The log file. -/
  logFile : Text := []
  /-- The sources given. -/
  sources : List Text := []
  /-- The symbol dump to read instead of sources. -/
  symbols : Text := []
  /-- The configuration file or its directory. -/
  config : Text := "."
  /-- The template directory. -/
  templateDir : Text := []
  /-- The output directory. -/
  outputDir : Text := []
  /-- The reference to resolve. -/
  name : Text := []
  /-- The owner of the symbol carrying it. -/
  memberof : Text := []
  deriving Repr, DecidableEq, Inhabited

/-- The request the values read give. -/
def Request.ofValues (vs : Values) : Request :=
  let one (dest : Text) (d : Text) : Text := ((vs.last? dest).bind List.head?).getD d
  let command := one "command" []
  { command := if command == Text.ofString "resolve" then .resolve
      else if command == Text.ofString "index" then .index
      else .publish,
    verbose := (vs.last? "verbose").isSome,
    logFile := one "log_file" [],
    sources := (vs.last? "sources").getD [],
    symbols := one "symbols" [],
    config := one "config" ".",
    templateDir := one "template_dir" [],
    outputDir := one "output_dir" [],
    name := one "name" [],
    memberof := one "memberof" [] }

/-- The request of a command line, or how reading it stopped. -/
def readRequest (argv : List Text) : Except Stop Request := do
  let cmd : CommandReader := fun name rest =>
    match commandParsers.lookup name with
    | some p => read p (fun _ _ => .ok ([], [])) rest
    | none => .error (.error mainParser (Text.ofString "argument command: invalid choice: " ++
        Text.quoted name ++ " (choose from " ++ Text.quoted "publish" ++ ", " ++
        Text.quoted "resolve" ++ ", " ++ Text.quoted "index" ++ ")"))
  let (vs, extras) ← read mainParser cmd argv
  if !extras.isEmpty then
    throw (.error mainParser (Text.ofString "unrecognized arguments: " ++ Text.join " " extras))
  pure (Request.ofValues vs)

/-! ### Failures -/

/-- Why a run stops without reporting it: each keeps its cause. -/
inductive Failure where
  /-- The log file cannot be opened. -/
  | logFile (e : FsError)
  /-- The configuration cannot be read. -/
  | config (e : ConfigError)
  /-- A source cannot be named. -/
  | scan (e : ScanError)
  /-- The symbol dump cannot be read. -/
  | symbols (e : FsError)
  /-- The symbol dump stops at a limit of reading JSON. -/
  | dump (e : Json.ReadError)
  /-- The site cannot be written. -/
  | emit (e : Site.EmitError)
  deriving Repr, DecidableEq, Inhabited

/-- The failure's message. -/
def Failure.message : Failure → Text
  | .logFile e => e.message
  | .config e => e.message
  | .scan e => e.message
  | .symbols e => e.message
  | .dump e => e.message
  | .emit e => e.message

/-- A step of a run. -/
abbrev RunStep := Step Failure

/-- Ends the run with an exit code, after printing `msg` to standard error. -/
def exitWith (code : Nat) (msg : Text) : RunStep Nat := do
  modify (·.err msg)
  pure code

/-- Prints to standard output. -/
def say (t : Text) : RunStep Unit :=
  modify (·.out t)

/-! ### Logging -/

/-- The absolute path a log file name stands for from `cwd`, `..` taken lexically. -/
def logPath (cwd : List Text) (name : Text) : PurePath :=
  let p := PurePath.ofText name
  let parts := (if p.isAbsolute then p.parts else cwd ++ p.parts).foldl
    (fun acc n => if n == Text.ofString ".." then acc.dropLast else acc ++ [n]) []
  { root := if p.root == .doubleSlash then .doubleSlash else .slash, parts }

/-- Opens the log file at `name` for appending: an existing file is kept, a missing one is made
empty in a directory that must exist. -/
def openLog (t : Tree) (cwd : List Text) (name : Text) : Except FsError (Tree × List Text) := do
  let p := logPath cwd name
  let loc ← t.fileTarget cwd p
  match t.get? loc with
  | some (.file _) => pure (t, loc)
  | _ => pure (t.set loc (.file []), loc)

/-! ### Commands -/

/-- Whether a configuration error is reported by the run: a document that is not a mapping or
not YAML. -/
def isReportedConfigError : ConfigError → Bool
  | .notMapping | .malformed _ _ => true
  | _ => false

/-- Parses the scanned files one after another, each read as the files stand when its turn
comes, logging what each gave. -/
def parseFiles (files : List ScannedFile) : RunStep (List SourceFile) :=
  files.mapM fun f => do
    let s ← get
    let text := scannedText s.tree s.cwd f
    modify (·.logAll (Comment.parseLog text f.label))
    pure (Comment.parseSource text f.label)

/-- The source files of a run: the symbol dump, or the sources given or configured, scanned
and parsed; none when the run ends with a reported failure. The loading runs at `depth` on the
stack, and a symbol dump is loaded one frame above it. -/
def loadInput (depth : Nat) (req : Request) (config : Config) : RunStep (Option (List SourceFile)) := do
  let s ← get
  if !req.symbols.isEmpty then
    let p := PurePath.ofText req.symbols
    match s.tree.readFile s.cwd p with
    | .error (.io (.notFound shown)) =>
      let _ ← exitWith 1 ((IoError.notFound shown).message ++ "\n")
      pure none
    | .error e => throw (.symbols e)
    | .ok bytes =>
      match FileGroup.ofDumpBytes (depth + 1) p.toText bytes with
      | .ok g => pure (some g.files)
      | .error (.limit e) => throw (.dump e)
      | .error e =>
        let _ ← exitWith 1 (e.message ++ "\n")
        pure none
  else
    let sources := if req.sources.isEmpty then config.sources.map PurePath.toText else req.sources
    if sources.isEmpty then
      let _ ← exitWith 1 "No sources given and none configured in .refdoc.yml\n"
      return none
    match scanSources s.homes s.tree s.cwd config.excludePaths sources with
    | .error (.notFound source) =>
      let _ ← exitWith 1 ((ScanError.notFound source).message ++ "\n")
      pure none
    | .error e => throw (.scan e)
    | .ok scanned =>
      Step.log (scanLog scanned)
      pure (some (← parseFiles scanned))

/-- The page index as `index` prints it: each page with its group and the path of its file. -/
def indexJson (files : List SourceFile) (idx : PageIndex) : Json :=
  .obj (idx.entries.map fun (page, e) =>
    (page, .obj [("name", .str e.name), ("file", .str (files.getD e.file {}).path)]))

/-- A directory as a run reports it: from `cwd` when it lies under it, else as given. -/
def relativize (cwd : List Text) (d : Text) : Text :=
  let p := PurePath.ofText d
  match Tree.absolute cwd p with
  | .ok a =>
    match a.relativeTo? (PurePath.abs cwd) with
    | some r => r.toText
    | none => p.toText
  | .error _ => p.toText

/-- The `index` command. -/
def runIndex (files : List SourceFile) : RunStep Nat := do
  let normalized := normalizeFiles files
  modify (·.logAll (normalizeLog files))
  modify (·.logAll (PageIndex.buildLog normalized))
  say (Json.pretty 2 (indexJson normalized (PageIndex.build normalized)) ++ "\n")
  pure 0

/-- Whether a failure to write the site is reported by the run: a missing template or a failed
file operation. -/
def isReportedEmitError : Site.EmitError → Bool
  | .templateNotFound _ _ | .fs (.io _) | .pattern (.io _) => true
  | _ => false

/-- The `publish` command, with the template engine `eng`. -/
def runPublish (eng : Site.Engine) (req : Request) (config : Config) (files : List SourceFile) :
    RunStep Nat := do
  let ctx : PublishContext :=
    ⟨if req.templateDir.isEmpty then (config.templatesDir.map PurePath.toText).getD [] else req.templateDir,
     if req.outputDir.isEmpty then (config.outputDir.map PurePath.toText).getD [] else req.outputDir⟩
  let opts : Site.EmitOptions := { mainTemplate := config.mainTemplate, staticAssets := config.staticAssets }
  match ← Step.attempt (publish eng config.links opts ctx files) with
  | .error e =>
    if isReportedEmitError e then
      exitWith 1 (Text.ofString "refdoc publish failed: " ++ e.message ++
        "\nRun with --verbose for more details.\n")
    else throw (.emit e)
  | .ok r =>
    let s ← get
    if ctx.outputDir.isEmpty then
      say (Text.ofString "Computed " ++ Text.ofNat r.index.entries.length ++
        " pages (no output directory given)\n")
    else
      say (Text.ofString "Wrote " ++ Text.ofNat r.written.length ++ " files to " ++
        relativize s.cwd ctx.outputDir ++ "\n")
    pure 0

/-- A request, once logging is set up, made by a run at `depth` on the stack with the template
engine `eng`: the configuration and the input are loaded one frame above it. -/
def runRequest (eng : Site.Engine) (depth : Nat) (req : Request) : RunStep Nat := do
  let s ← get
  match loadConfig (depth + 1) s.homes s.tree s.cwd req.config with
  | .error e =>
    if isReportedConfigError e then exitWith 1 (e.message ++ "\n") else throw (.config e)
  | .ok config =>
    match req.command with
    | .resolve =>
      let link := SeeLink.resolve config.links req.name req.memberof
      Step.log (LogRecord.debug .xref link.logMessage)
      say (link.url ++ "\t" ++ link.text ++ "\n")
      pure 0
    | cmd =>
      match ← loadInput (depth + 1) req config with
      | none => pure 1
      | some files => if cmd == .index then runIndex files else runPublish eng req config files

/-- A run of the command line `argv`, starting at `depth` on the stack, with the template engine
`eng`. -/
def run (eng : Site.Engine) (depth : Nat) (argv : List Text) : RunStep Nat := do
  match readRequest argv with
  | .error (.help p) =>
    say p.helpText
    pure 0
  | .error (.error p msg) =>
    exitWith 2 (Text.ofString "usage: " ++ p.usage ++ "\n" ++ p.prog ++ ": error: " ++ msg ++ "\n")
  | .ok req =>
    modify fun s => { s with sink := { s.sink with verbose := req.verbose } }
    if !req.logFile.isEmpty then
      let s ← get
      match openLog s.tree s.cwd req.logFile with
      | .error e => throw (.logFile e)
      | .ok (t, loc) => set { s with tree := t, sink := { s.sink with file := some loc } }
    runRequest eng depth req

end DocPages.Cli
