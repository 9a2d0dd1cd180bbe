import DocPages.Site.Engine
import DocPages.Page.Index
import DocPages.Fs.Glob
import DocPages.Text.Utf8
import DocPages.Session
/-!
# Writing a site

A site is written into an output directory, which is made first, in this order: one page per
index key, in index order; the Java libraries page; `index.html` as a byte copy of
`global.html` when that exists (a warning otherwise); then the static assets. The template and
the assets come from the template directories: the custom one, if given, and then the packaged
one. An asset is every regular file that an asset pattern matches in a template directory,
taken directory by directory, pattern by pattern, in sorted order, and only the first file of
each name is copied.

The page template is found by its name split at `/`, in the first template directory that
holds it as a regular file, and must be UTF-8; a name with a `..` segment is never found. The
template engine the run is given compiles it, and renders each page before its file is touched.
A page is written by making or emptying its file and then writing its text as UTF-8, so a text
that cannot be written leaves an empty file behind.

The run returns every path it wrote, in order, so a page written twice appears twice; a file
left behind holds the last thing written to it. It logs each page it writes and each asset it
copies as it goes.
-/

namespace DocPages.Site

/-- How the emitter finds its template and assets. -/
structure EmitOptions where
  /-- The name of the page template. -/
  mainTemplate : Text := "main.html.j2"
  /-- The patterns of the static assets. -/
  staticAssets : List Text := ["*.css", "*.js", "*.gif", "*.png"]
  deriving Repr, DecidableEq, Inhabited

/-- Why a site cannot be written. -/
inductive EmitError where
  /-- No template directory holds the page template. -/
  | templateNotFound (name : Text) (searched : List Text)
  /-- A file operation failed. -/
  | fs (e : FsError)
  /-- The page template is not UTF-8. -/
  | templateText (e : Text.DecodeError)
  /-- The template engine refused the template or failed to render a page. -/
  | engine (e : EngineError)
  /-- A page's text cannot be written as UTF-8. -/
  | pageText (e : Text.EncodeError)
  /-- An asset pattern cannot be used. -/
  | pattern (e : GlobError)
  deriving Repr, DecidableEq, Inhabited

/-- The error's message. -/
def EmitError.message : EmitError → Text
  | .templateNotFound name searched =>
    Text.ofString "Template " ++ name ++ " not found in " ++ Text.join ", " searched
  | .fs e => e.message
  | .templateText e => e.message
  | .engine e => e.message
  | .pageText e => e.message
  | .pattern e => e.message

/-- A step of writing a site. -/
abbrev EmitStep := Step EmitError

/-- A file operation's result as a step. -/
def fsStep {α : Type} (r : Except FsError α) : EmitStep α :=
  Step.lift .fs r

@[simp] theorem fsStep_eq {α : Type} (r : Except FsError α) : fsStep r = Step.lift .fs r := rfl

/-- Writes a text file: it is made or emptied first, then its text is written as UTF-8. -/
def writeText (p : PurePath) (content : Text) : EmitStep Unit := do
  let s ← get
  let t ← fsStep (s.tree.writeFile s.cwd p [])
  Step.setTree t
  let bytes ← Step.lift .pageText (Text.encodeUtf8 content)
  Step.setTree (← fsStep (t.writeFile s.cwd p bytes))

/-- The template directories: the custom one, if given, then the packaged one unless it is the
same path. -/
def templateDirs (packaged : List Text) (custom : Text) : List PurePath :=
  let packagedPath := PurePath.abs packaged
  let dirs := if custom.isEmpty then [] else [PurePath.ofText custom]
  if dirs.contains packagedPath then dirs else dirs ++ [packagedPath]

/-- The segments of a template name, or `none` when it climbs out with `..`. -/
def templatePieces? (name : Text) : Option (List Text) :=
  let pieces := Text.splitOn '/' name
  if pieces.contains ".." then none
  else some (pieces.filter fun p => !p.isEmpty && p != ".")

/-- The page template named `name` in the first template directory that holds it as a regular
file, compiled by `eng`. -/
def loadTemplate (eng : Engine) (dirs : List PurePath) (name : Text) : EmitStep eng.Compiled := do
  let s ← get
  let notFound := EmitError.templateNotFound name (dirs.map PurePath.toText)
  let some pieces := templatePieces? name | throw notFound
  let some file := (dirs.map fun d => d.join { parts := pieces }).find? (s.tree.isFile s.cwd ·)
    | throw notFound
  let bytes ← fsStep (s.tree.readFile s.cwd file)
  let src ← Step.lift .templateText (Text.decodeUtf8 bytes)
  Step.lift .engine (eng.compile src)

/-- Copies one matched asset into `out`, unless it is no regular file or a file of its name was
copied before; `seen` holds the names copied and `copied` the targets, in order. -/
def copyAsset (dir out : PurePath) (acc : List Text × List PurePath) (asset : PurePath) :
    EmitStep (List Text × List PurePath) := do
  let s ← get
  let (seen, copied) := acc
  let isFile ← fsStep ((s.tree.probeFile s.cwd asset).mapError .io)
  if !isFile || seen.contains asset.name then return acc
  let target := out.join { parts := [asset.name] }
  Step.setTree (← fsStep (s.tree.copyFile s.cwd asset target))
  Step.log (LogRecord.debug .emitter
    (Text.ofString "Copied asset " ++ asset.name ++ " from " ++ dir.toText))
  return (seen ++ [asset.name], copied ++ [target])

/-- Copies the static assets of the template directories into `out`: for each directory and
pattern, the sorted matches are found and copied in turn. -/
def copyAssets (opts : EmitOptions) (dirs : List PurePath) (out : PurePath) :
    EmitStep (List PurePath) := do
  let (_, copied) ← dirs.foldlM (fun acc dir =>
    opts.staticAssets.foldlM (fun acc pat => do
      let s ← get
      let found ← Step.lift .pattern (s.tree.glob s.cwd dir pat)
      found.foldlM (copyAsset dir out) acc) acc) ([], [])
  return copied

/-- Renders one page with the compiled template `c`, writes it and logs it. -/
def writePage (eng : Engine) (c : eng.Compiled) (pages : List Text) (out : PurePath) (page : Text)
    (v : PageView) : EmitStep PurePath := do
  let html ← Step.lift .engine (eng.render c pages v)
  let p := out.join (PurePath.ofText page)
  writeText p html
  Step.log (LogRecord.debug .emitter (Text.ofString "Wrote " ++ p.toText))
  return p

/-- Writes `index.html` as a copy of `global.html` when that exists, and warns otherwise. -/
def copyGlobalPage (out : PurePath) : EmitStep (List PurePath) := do
  let s ← get
  let globalPage := out.join { parts := ["global.html"] }
  if ← fsStep ((s.tree.probeExists s.cwd globalPage).mapError .io) then
    let bytes ← fsStep (s.tree.readFile s.cwd globalPage)
    let indexPage := out.join { parts := ["index.html"] }
    Step.setTree (← fsStep (s.tree.writeFile s.cwd indexPage bytes))
    return [indexPage]
  else
    Step.log (LogRecord.warning .emitter "global.html was not generated; skipping index.html")
    return []

/-- Writes the site of `index` over `files` into the directory `outDir` with the template
engine `eng`, with template directory `custom` (or none when empty) before the packaged one;
gives the paths written. -/
def emit (eng : Engine) (opts : EmitOptions) (index : PageIndex) (files : List SourceFile)
    (javaLinks : List SeeLink) (custom outDir : Text) : EmitStep (List PurePath) := do
  let out := PurePath.ofText outDir
  let s ← get
  Step.setTree (← fsStep (s.tree.makeDirs s.cwd out))
  let dirs := templateDirs s.packaged custom
  let tpl ← loadTemplate eng dirs opts.mainTemplate
  let pages := index.keys.mergeSort Text.le
  let written ← index.entries.mapM fun (page, e) =>
    writePage eng tpl pages out page (.group page e.name (files.getD e.file {}))
  let java ← writePage eng tpl pages out javaLibrariesPage (.javaLibraries javaLinks)
  let copies ← copyGlobalPage out
  let assets ← copyAssets opts dirs out
  return written ++ [java] ++ copies ++ assets

end DocPages.Site
