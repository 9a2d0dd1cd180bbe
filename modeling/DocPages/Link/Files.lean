import DocPages.Link.SeeLink
import DocPages.Doc.Basic
import DocPages.Log
/-!
# Rendering a run's references

Every `see` tag of a symbol (title exactly `see`) is resolved against the symbol's owner, in
tag order; the symbol keeps the rendered HTML of its links, replacing what it held before, and
the run collects all links in file, symbol and tag order. The external links of a run, each
address once, in the order first seen, are the Java classes it refers to.
-/

namespace DocPages

/-- The links of a symbol's `see` tags, in tag order. -/
def Symbol.seeLinks (st : LinkSettings) (s : Symbol) : List SeeLink :=
  (s.doc.tagsTitled "see").map fun t => SeeLink.resolve st t.desc s.memberof

/-- The symbol holding the rendered HTML of its links. -/
def Symbol.renderSeeTags (st : LinkSettings) (s : Symbol) : Symbol :=
  { s with renderedSeeTags := (s.seeLinks st).map SeeLink.render }

/-- The file with every symbol's links rendered. -/
def SourceFile.renderSeeTags (st : LinkSettings) (f : SourceFile) : SourceFile :=
  { f with symbols := f.symbols.map (Symbol.renderSeeTags st) }

/-- Every file with its symbols' links rendered. -/
def renderFiles (st : LinkSettings) (files : List SourceFile) : List SourceFile :=
  files.map (SourceFile.renderSeeTags st)

/-- All links of the files, in file, symbol and tag order. -/
def filesLinks (st : LinkSettings) (files : List SourceFile) : List SeeLink :=
  (files.flatMap (·.symbols)).flatMap (Symbol.seeLinks st)

/-- The external links not among `seen` addresses, each address once, first seen first. -/
def uniqueExternalFrom (seen : List Text) : List SeeLink → List SeeLink
  | [] => []
  | l :: rest =>
    if l.external && !seen.contains l.url then l :: uniqueExternalFrom (l.url :: seen) rest
    else uniqueExternalFrom seen rest

/-- The external links, each address once, in the order first seen. -/
def uniqueExternal (links : List SeeLink) : List SeeLink :=
  uniqueExternalFrom [] links

/-- The debug records of resolving the links, one per link. -/
def linksLog (links : List SeeLink) : List LogRecord :=
  links.map fun l => LogRecord.debug .xref l.logMessage

end DocPages
