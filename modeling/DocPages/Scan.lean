import DocPages.Fs.Glob
import DocPages.Comment.Source
import DocPages.Text.Utf8
/-!
# Collecting sources

The sources of a run are files and directories, taken in the order given. A source is first
read as a path, a leading `~` standing for a home directory, and made absolute as the system
would, `..` taken lexically. A file is taken as it is, under the label it was given as. A
directory is walked top-down: first its source files, then its subdirectories, each in code
point order. A file found there is labelled with the directory's name and its path inside it.

The walk skips version control and package directories, files that do not end in `.js`, and
the paths an exclude rule matches. A rule `p` matches a path when `p` matches one of the
path's segments, or the whole path when `p` holds a `/`; a rule ending in `/` only matches
directories. A file reached twice is taken once, the first time.
-/

namespace DocPages

/-- The directories a walk never enters. -/
def skippedDirs : List Text := [".git", ".hg", ".svn", "node_modules", "__pycache__"]

/-- The suffix of a source file. -/
def sourceSuffix : Text := ".js"

/-- A rule excluding paths from a walk. -/
structure IgnoreRule where
  /-- The shell-style pattern, without leading and trailing `/`. -/
  pattern : Text
  /-- Whether it only excludes directories. -/
  directoryOnly : Bool
  /-- Whether the pattern holds a `/`, and so matches whole paths. -/
  hasSlash : Bool
  deriving Repr, DecidableEq, Inhabited

namespace IgnoreRule

/-- The rule an exclude pattern gives, unless it is blank. -/
def ofPattern? (raw : Text) : Option IgnoreRule :=
  let p := Text.strip raw
  if p.isEmpty then none
  else
    let stripped := (p.reverse.dropWhile (· == .char '/')).reverse.dropWhile (· == .char '/')
    some { pattern := stripped, directoryOnly := Text.endsWith p "/",
           hasSlash := stripped.any (· == .char '/') }

/-- Whether the rule excludes the path `rel`, written with `/` from the walk's root. -/
def excludes (r : IgnoreRule) (rel : Text) (isDir : Bool) : Bool :=
  if r.pattern.isEmpty then false
  else if r.directoryOnly && !isDir then false
  else if r.hasSlash then nameMatches r.pattern rel
  else (Text.splitOn '/' rel).any (nameMatches r.pattern)

end IgnoreRule

/-- The rules of exclude patterns, blank ones left out. -/
def ignoreRules (patterns : List Text) : List IgnoreRule :=
  patterns.filterMap IgnoreRule.ofPattern?

/-- Whether some rule excludes a path. -/
def ignored (rules : List IgnoreRule) (rel : Text) (isDir : Bool) : Bool :=
  rules.any fun r => r.excludes rel isDir

/-- The source files below the directory at location `loc`, which lies at `rel` below the
walk's root, by their names below the root: this directory's files, then each kept
subdirectory's, in name order. -/
def walkSources (t : Tree) (rules : List IgnoreRule) :
    Nat → List Text → List Text → List (List Text)
  | 0, _, _ => []
  | fuel + 1, loc, rel =>
    let names := t.entries loc
    let relText (n : Text) : Text := Text.join "/" (rel ++ [n])
    let files := names.filter fun n =>
      !t.isDirAt (loc ++ [n]) && Text.endsWith n sourceSuffix && !ignored rules (relText n) false
    let dirs := names.filter fun n =>
      t.isDirAt (loc ++ [n]) && !skippedDirs.contains n && !ignored rules (relText n) true
    files.map (fun n => rel ++ [n]) ++
      dirs.flatMap fun n => walkSources t rules fuel (loc ++ [n]) (rel ++ [n])

/-- A file to document and the label it is documented under. -/
structure ScannedFile where
  /-- Its absolute path. -/
  path : PurePath
  /-- Its label. -/
  label : Text
  deriving Repr, DecidableEq, Inhabited

/-- Why sources cannot be collected. -/
inductive ScanError where
  /-- A source, as given, names nothing. -/
  | notFound (source : Text)
  /-- A source starts with `~` and a user whose home directory is unknown. -/
  | noHome
  /-- A source cannot be handed to the system, or asking for it failed. -/
  | fs (e : FsError)
  deriving Repr, DecidableEq, Inhabited

/-- The error's message. -/
def ScanError.message : ScanError → Text
  | .notFound source => Text.ofString "Source path not found: " ++ source
  | .noHome => homeErrorMessage
  | .fs e => e.message

/-- The files one source stands for, from `cwd`, with the home directories `homes`. -/
def sourceFiles (homes : PurePath.Homes) (t : Tree) (cwd : List Text) (rules : List IgnoreRule)
    (source : Text) : Except ScanError (List ScannedFile) := do
  let some given := (PurePath.ofText source).expandUser homes | throw .noHome
  let path ← (Tree.absolute cwd given).mapError .fs
  if !(← (t.probeExists cwd path).mapError (.fs ∘ .io)) then throw (.notFound source)
  if ← (t.probeDir cwd path).mapError (.fs ∘ .io) then
    let loc := path.parts.map Tree.canonicalName
    return (walkSources t rules (t.nodes.length + 1) loc []).map fun rel =>
      { path := { path with parts := path.parts ++ rel },
        label := Text.join "/" (path.name :: rel) }
  else return [{ path, label := given.toText }]

/-- The files the sources stand for, in order, each path once. -/
def scanSources (homes : PurePath.Homes) (t : Tree) (cwd : List Text) (exclude : List Text)
    (sources : List Text) : Except ScanError (List ScannedFile) :=
  let rules := ignoreRules exclude
  sources.foldlM (fun (acc : List ScannedFile) source => do
    let more ← sourceFiles homes t cwd rules source
    pure (more.foldl (fun acc f => if acc.any (·.path == f.path) then acc else acc ++ [f]) acc)) []

/-- The record a scan logs. -/
def scanLog (files : List ScannedFile) : LogRecord :=
  LogRecord.debug .scanner (Text.ofString "Scanner collected " ++ Text.ofNat files.length ++
    " source files")

/-- The text of a source file: its bytes read as UTF-8, malformed bytes replaced, line breaks
unified. -/
def sourceText (bytes : List UInt8) : Text :=
  Text.unifyNewlines (Text.decodeUtf8Lossy bytes)

/-- The text of a scanned file in the tree as it is. -/
def scannedText (t : Tree) (cwd : List Text) (f : ScannedFile) : Text :=
  sourceText ((t.readFile cwd f.path).toOption.getD [])

/-- The scanned files parsed, each under its label. -/
def parseScanned (t : Tree) (cwd : List Text) (files : List ScannedFile) : List SourceFile :=
  files.map fun f => Comment.parseSource (scannedText t cwd f) f.label

end DocPages
