import DocPages.Doc.Normalize
import DocPages.Link.Files
import DocPages.Page.Index
import DocPages.Site.Emit
/-!
# Publishing

A publish run takes a file group through one pass: dotted names are normalised, every
reference is resolved and rendered into its symbol, and the page index is built over the
result. With an output directory the site is then written; without one the run only reports
how many pages it would have. The result holds the files as the run left them, all links in
encounter order, the index and the paths written; its Java links are the external links, each
address once.
-/

namespace DocPages

/-- Where a publish run takes its template from and writes to. -/
structure PublishContext where
  /-- The custom template directory, or empty. -/
  templateDir : Text := []
  /-- The output directory, or empty for none. -/
  outputDir : Text := []
  deriving Repr, DecidableEq, Inhabited

/-- What a publish run produced. -/
structure PublishResult where
  /-- The files as the run left them. -/
  files : List SourceFile
  /-- Every link, in file, symbol and tag order. -/
  links : List SeeLink
  /-- The page index. -/
  index : PageIndex
  /-- The paths written, in order. -/
  written : List PurePath := []
  deriving Repr, Inhabited

/-- The external links of a run, each address once, first seen first. -/
def PublishResult.javaLinks (r : PublishResult) : List SeeLink :=
  uniqueExternal r.links

/-- The pass over the files: normalise, render the references, build the index. -/
def publishPass (st : LinkSettings) (files : List SourceFile) : PublishResult :=
  let normalized := normalizeFiles files
  let rendered := renderFiles st normalized
  { files := rendered, links := filesLinks st normalized, index := PageIndex.build rendered }

/-- The records of the pass before anything is written. -/
def passLog (st : LinkSettings) (files : List SourceFile) : List LogRecord :=
  let normalized := normalizeFiles files
  [LogRecord.info .publisher (Text.ofString "Publishing " ++
    Text.ofNat (files.flatMap (·.symbols)).length ++ " symbols from " ++ Text.ofNat files.length ++
    " files")] ++
  normalizeLog files ++
  [LogRecord.debug .publisher (Text.ofString "Normalized " ++ Text.ofNat (normalizedCount files) ++
    " dotted symbol names")] ++
  linksLog (filesLinks st normalized) ++
  PageIndex.buildLog (renderFiles st normalized)

/-- A publish run: the pass, then, with an output directory, the site written with the
template engine `eng`. -/
def publish (eng : Site.Engine) (st : LinkSettings) (opts : Site.EmitOptions) (ctx : PublishContext)
    (files : List SourceFile) : Site.EmitStep PublishResult := do
  let r := publishPass st files
  modify fun s => s.logAll (passLog st files)
  if ctx.outputDir.isEmpty then
    Step.log (LogRecord.info .publisher (Text.ofString "No output directory given; computed " ++
      Text.ofNat r.index.entries.length ++ " pages"))
    return r
  else
    let written ← Site.emit eng opts r.index r.files r.javaLinks ctx.templateDir ctx.outputDir
    Step.log (LogRecord.info .publisher (Text.ofString "Wrote " ++ Text.ofNat written.length ++
      " files to " ++ ctx.outputDir))
    return { r with written }

end DocPages
