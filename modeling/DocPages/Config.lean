import DocPages.Yaml.Value
import DocPages.Link.Rule
import DocPages.Fs.Tree
/-!
# Project configuration

A project is configured by a YAML file, `.refdoc.yml` in the directory given, or the file
given; a leading `~` or `~user` names a home directory. The file's directory is the project
root, and the paths it names are taken from there. A missing file configures nothing; so does
a file of whitespace only, and one whose document is null, false, zero or empty. Any other
document must be a mapping.

Settings are read in a fixed order, so of two faulty settings the first is reported: the
template and output directories, the links (the Java API address, the search address and the
namespaces), the sources, the excluded paths, the page template and the static assets. A path
or name setting is any scalar written as text, `True` for yes, `31` for `0x1F`, `1.5` for
`1.5`; an empty text counts as none. A list setting is a string, which counts as one item, or a
list, of which the scalar items count; the bytes of binary data count as their numbers. A
setting of another kind is ignored.
-/

namespace DocPages

/-- The name of the configuration file looked for in a directory. -/
def configFileName : Text := ".refdoc.yml"

/-- The settings of a project. -/
structure Config where
  /-- The project root, absolute. -/
  root : PurePath
  /-- The custom template directory. -/
  templatesDir : Option PurePath := none
  /-- The output directory. -/
  outputDir : Option PurePath := none
  /-- The sources to document. -/
  sources : List PurePath := []
  /-- Patterns of paths to leave out. -/
  excludePaths : List Text := []
  /-- The name of the page template. -/
  mainTemplate : Text := "main.html.j2"
  /-- Patterns of the static assets. -/
  staticAssets : List Text := ["*.css", "*.js", "*.gif", "*.png"]
  /-- Where references outside the project point. -/
  links : LinkSettings := {}
  deriving Repr, Inhabited

/-- Why a configuration cannot be loaded. -/
inductive ConfigError where
  /-- The document is not a mapping. -/
  | notMapping
  /-- The file named is not well-formed YAML; `cause` is the loader's account of the fault. -/
  | malformed (name : Text) (cause : Yaml.LoadError)
  /-- The path names the home directory of an unknown user. -/
  | noHome
  /-- Looking for the file or reading it failed. -/
  | fs (e : FsError)
  /-- The file is not UTF-8. -/
  | notUtf8 (e : Text.DecodeError)
  /-- A value of the document cannot be built. -/
  | value (e : Yaml.LoadError)
  /-- A setting's number cannot be written as text. -/
  | numeral (e : Numeral.NumeralError)
  deriving Repr, DecidableEq, Inhabited

/-- The error's message. -/
def ConfigError.message : ConfigError → Text
  | .notMapping => configFileName ++ " must contain a mapping at the root"
  | .malformed name cause => Text.ofString "Failed to parse " ++ name ++ ": " ++ cause.message
  | .noHome => homeErrorMessage
  | .fs e => e.message
  | .notUtf8 e => e.message
  | .value e => e.message
  | .numeral e => e.message

namespace Yaml.Document

/-- The value at a place, when there is one. -/
def get? (d : Document) (p : Option Nat) : Option Value :=
  p.map d.get

/-- The text of a scalar setting: a string as it is, a number as it is written in decimal, a
truth value as `True` or `False`; other values have none. -/
def settingText (v : Option Value) : Except ConfigError (Option Text) :=
  match v with
  | some (.str t) => .ok (some t)
  | some (.int n) => (Numeral.intText n).map some |>.mapError .numeral
  | some (.float x) => .ok (some (Text.ofString x.repr))
  | some (.bool b) => .ok (some (if b then Text.ofString "True" else "False"))
  | _ => .ok none

/-- The texts of the scalar items of a list of values, in order. -/
def itemTexts (vs : List Value) : Except ConfigError (List Text) :=
  vs.filterMapM fun v => settingText (some v)

/-- The texts of a list setting: a string is one item; of a list or pair, the scalar items;
of bytes, their numbers. -/
def settingList (d : Document) (v : Option Value) : Except ConfigError (List Text) :=
  match v with
  | some (.str t) => .ok [t]
  | some (.list items) => itemTexts (items.map d.get)
  | some (.pair k w) => itemTexts [d.get k, d.get w]
  | some (.bytes bs) => .ok (bs.map fun b => Text.ofNat b.toNat)
  | _ => .ok []

/-- The value a dictionary gives a string key. -/
def lookup (d : Document) (dict : Value) (key : Text) : Option Value :=
  d.get? (dict.field? key)

/-- Whether a dictionary has a string key. -/
def hasKey (dict : Value) (key : Text) : Bool :=
  (dict.field? key).isSome

end Yaml.Document

/-- A text setting, when it has a non-empty text. -/
def nonEmpty (t : Option Text) : Option Text :=
  match t with
  | some s => if s.isEmpty then none else some s
  | none => none

open Yaml in
/-- The link settings a `links` dictionary gives: its addresses when they have text, and its
namespaces when it names them. Anything but a non-empty dictionary gives the defaults. -/
def LinkSettings.ofValue (d : Document) (v : Option Value) : Except ConfigError LinkSettings := do
  let dflt : LinkSettings := {}
  match v with
  | some (.dict (e :: es)) =>
    let links := Value.dict (e :: es)
    let base := nonEmpty (← Document.settingText (d.lookup links "javadoc_base_url"))
    let search := nonEmpty (← Document.settingText (d.lookup links "search_url"))
    let namespaces ← if Document.hasKey links "namespaces" then
        Document.settingList d (d.lookup links "namespaces")
      else pure dflt.namespaces
    pure { javadocBaseUrl := base.getD dflt.javadocBaseUrl,
           searchUrl := search.getD dflt.searchUrl, namespaces }
  | _ => pure dflt

open Yaml in
/-- The configuration a dictionary gives for the project at `root`, read in order. -/
def Config.ofValue (root : PurePath) (d : Document) (data : Value) : Except ConfigError Config := do
  let get (k : Text) : Option Value := d.lookup data k
  let under (t : Option Text) : Option PurePath := (nonEmpty t).map fun s => root.join (PurePath.ofText s)
  let templatesDir := under (← Document.settingText (get "templates_dir"))
  let outputDir := under (← Document.settingText (get "output_dir"))
  let links ← LinkSettings.ofValue d (get "links")
  let sources := (← Document.settingList d (get "sources")).map fun s => root.join (PurePath.ofText s)
  let excludePaths ← Document.settingList d (get "exclude_paths")
  let dflt : Config := { root }
  let mainTemplate := (nonEmpty (← Document.settingText (get "main_template"))).getD dflt.mainTemplate
  let staticAssets ← if Document.hasKey data "static_assets" then
      Document.settingList d (get "static_assets")
    else pure dflt.staticAssets
  pure { root, templatesDir, outputDir, sources, excludePaths, mainTemplate, staticAssets, links }

/-- The document a configuration text holds, as its values and root: none for blank text and
for a document that is null, false, zero or empty. Faults of form are reported against the file
`name`. The reading runs at `depth` on the stack and calls the YAML loader one frame above. -/
def configDocument (depth : Nat) (name : Text) (text : Text) : Except ConfigError (Option Yaml.Document) :=
  if (Text.strip text).isEmpty then .ok none
  else
    match Text.toString? text with
    | none => .error (.malformed name .malformed)
    | some s =>
      match Yaml.Document.load (depth + 1) s with
      | .error .malformed => .error (.malformed name .malformed)
      | .error e => .error (.value e)
      | .ok none => .ok none
      | .ok (some d) => .ok (if d.rootValue.truthy then some d else none)

/-- The file configuring the project that `arg` names from `cwd`: `.refdoc.yml` in it when it
is a directory, else the file itself, as an absolute path. -/
def configFile (homes : PurePath.Homes) (t : Tree) (cwd : List Text) (arg : Text) :
    Except ConfigError PurePath := do
  let p ← match (PurePath.ofText arg).expandUser homes with
    | some p => pure p
    | none => throw .noHome
  let isDir ← (t.probeDir cwd p).mapError (.fs ∘ .io)
  let file := if isDir then p.child configFileName else p
  (Tree.absolute cwd file).mapError .fs

/-- The configuration of the project that `arg` names from `cwd`, loaded at `depth` on the
stack: the file is read one frame above. -/
def loadConfig (depth : Nat) (homes : PurePath.Homes) (t : Tree) (cwd : List Text) (arg : Text) :
    Except ConfigError Config := do
  let file ← configFile homes t cwd arg
  let root ← (Tree.absolute cwd file.parent).mapError .fs
  if !(← (t.probeExists cwd file).mapError (.fs ∘ .io)) then return { root }
  let bytes ← (t.readFile cwd file).mapError .fs
  let text ← (Text.decodeUtf8 bytes).mapError .notUtf8
  match ← configDocument (depth + 1) file.name (Text.unifyNewlines text) with
  | none => pure { root }
  | some d =>
    match d.rootValue with
    | .dict es => Config.ofValue root d (.dict es)
    | _ => throw .notMapping

end DocPages
