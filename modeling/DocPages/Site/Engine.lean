import DocPages.Site.Assets
import DocPages.Site.Page
/-!
# The template engine

Pages are rendered by a template engine that the emitter is given. The engine compiles a
template's source, as read from its file, once; the compiled template then renders each page
from the names of the site's pages, in code point order, and what the page shows. Either step
may fail: a source that is no template is refused when it is compiled, and a template can fail
while it renders a page. The emitter passes such a failure on as it is.

## The model

`Engine` is the interface: what a compiled template is, `compile` and `render`. Nothing about
the site's writing depends on which engine runs, so the theorems about it hold for every engine
and assume of it only that the template compiles and that each page renders.

`builtinEngine` is the engine a run is given when it is started as a command. It renders the
packaged page template exactly as `renderPage` says, and a template without markup as its text:
the line breaks unified and one final line break dropped. It refuses every other template.

What is *not* modelled: the template language itself. A custom template with markup is the
engine's business, and the built-in engine does not render one.
-/

namespace DocPages.Site

/-- Why the template engine refuses a template or cannot render a page: the kind of failure
and the engine's message. -/
structure EngineError where
  /-- The kind of failure, as the engine names it. -/
  kind : Text
  /-- What the engine says of it. -/
  message : Text
  deriving Repr, DecidableEq, Inhabited

/-- A template engine: a compiled template is made once from a template's source, then renders
each page from the sorted names of the site's pages and the page's view. -/
structure Engine where
  /-- What a template compiles to. -/
  Compiled : Type
  /-- The compiled template of a source, or why the source is no template. -/
  compile : Text → Except EngineError Compiled
  /-- The text of a page, or why it cannot be rendered. -/
  render : Compiled → List Text → PageView → Except EngineError Text

/-! ### The built-in engine -/

/-- A template the built-in engine renders: the packaged page template followed by a number of
line breaks, or a template without markup. -/
inductive Template where
  /-- The packaged page template and `breaks` line breaks after its last line. -/
  | page (breaks : Nat)
  /-- A template without markup, with one final line break dropped. -/
  | text (t : Text)

/-- The text without its trailing line feeds. -/
def dropTrailingBreaks (t : Text) : Text :=
  (t.reverse.dropWhile (· == .char '\n')).reverse

/-- Whether a template's text holds markup: an expression, a statement or a comment, which
open with `{{`, `{%` and `{#`. -/
def hasMarkup (t : Text) : Bool :=
  (t.zip t.tail).any fun (a, b) =>
    a == .char '\x7b' && (b == .char '\x7b' || b == .char '%' || b == .char '#')

/-- What the built-in engine says of a template it does not render. -/
def unsupportedTemplate : EngineError :=
  { kind := "TemplateError",
    message := "only the packaged page template and templates without markup can be rendered" }

/-- The template a template file's text is, its line breaks unified: the packaged template by
its text, up to the line breaks at its end; a text without markup, with one final line break
dropped; and no other. -/
def Template.ofSource (src : Text) : Except EngineError Template :=
  let src := Text.unifyNewlines src
  let core := dropTrailingBreaks src
  if core == dropTrailingBreaks (linesText templateLines) then .ok (.page (src.length - core.length))
  else if hasMarkup src then .error unsupportedTemplate
  else
    let lines := Text.splitOn '\n' src
    let lines := if lines.getLast? == some [] then lines.dropLast else lines
    .ok (.text (Text.join "\n" lines))

/-- The HTML of a view, for a site of the pages `pages`: a final line break of the template is
dropped. -/
def Template.render (pages : List Text) (v : PageView) : Template → Text
  | .page breaks => renderPage pages v ++ List.replicate (breaks - 1) (.char '\n')
  | .text t => t

/-- The engine a command runs with. -/
def builtinEngine : Engine where
  Compiled := Template
  compile := Template.ofSource
  render tpl pages v := .ok (tpl.render pages v)

@[simp] theorem builtinEngine_compile : builtinEngine.compile = Template.ofSource := rfl

@[simp] theorem builtinEngine_render (tpl : Template) (pages : List Text) (v : PageView) :
    builtinEngine.render tpl pages v = .ok (tpl.render pages v) := rfl

end DocPages.Site
