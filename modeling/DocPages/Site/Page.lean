import DocPages.Doc.Basic
import DocPages.Link.SeeLink
import DocPages.Text.Basic
/-!
# The default page

The HTML the packaged page template produces, as a function of what a page shows. Every page
has the same head and a navigation list with one item per page of the site in code point order,
each linking to the page and labelled with its name without `.html`, the current page marked,
and a last item for the Java libraries page.

A group's page shows its file's overview and one block per symbol, in file order, with the
qualified name as id and anchor, the description, the `param` tags, then the `returns`,
`return` and `type` tags, and then the rendered `see` links. The Java libraries page lists the
run's external links by address and reference. Values are inserted as they are, without
escaping. The page ends without a line break.
-/

namespace DocPages.Site

/-- What one page shows. -/
inductive PageView where
  /-- The page `page` of group `name`, showing the symbols of `file`. -/
  | group (page name : Text) (file : SourceFile)
  /-- The Java libraries page, listing the run's external links. -/
  | javaLibraries (links : List SeeLink)

/-- The name of the Java libraries page. -/
def javaLibrariesPage : Text := "javalibs.html"

/-- The page a view is rendered as current. -/
def PageView.page : PageView → Text
  | .group page _ _ => page
  | .javaLibraries _ => javaLibrariesPage

/-- The title of a view. -/
def PageView.title : PageView → Text
  | .group _ name _ => name
  | .javaLibraries _ => "Java Libraries"

/-- The navigation item of page `other` when `current` is shown. -/
def navItem (current other : Text) : Text :=
  Text.ofString "<li" ++ (if other == current then Text.ofString " class=\"current\"" else []) ++
    "><a href=\"" ++ other ++ "\">" ++ Text.dropLastN 5 other ++ "</a></li>"

/-- The lines of one symbol's block. -/
def symbolLines (s : Symbol) : List Text :=
  let qn := s.qualifiedName
  let fn := s.isFunction
  [Text.ofString "<div class=\"symbol" ++ (if fn then Text.ofString " function" else []) ++
      "\" id=\"" ++ qn ++ "\">",
   Text.ofString "<h2><a name=\"" ++ qn ++ "\">" ++ qn ++ (if fn then Text.ofString "()" else []) ++
      "</a></h2>"] ++
  (if s.doc.desc.isEmpty then []
   else [Text.ofString "<div class=\"description\">" ++ s.doc.desc ++ "</div>"]) ++
  ((s.doc.tags.filter (·.title == Text.ofString "param")).map fun t =>
    Text.ofString "<div class=\"param\">" ++ t.desc ++ "</div>") ++
  ((s.doc.tags.filter fun t => [Text.ofString "returns", "return", "type"].contains t.title).map fun t =>
    Text.ofString "<div class=\"" ++ t.title ++ "\">" ++ t.desc ++ "</div>") ++
  s.renderedSeeTags ++
  [Text.ofString "</div>"]

/-- The lines of a view's content section. -/
def contentLines : PageView → List Text
  | .javaLibraries links =>
    [Text.ofString "<h1>Java Libraries</h1>"] ++
    (if links.isEmpty then [Text.ofString "<p>No Java classes are referenced.</p>"]
     else [Text.ofString "<ul class=\"javalibs\">"] ++
       links.map (fun l => Text.ofString "<li><a href=\"" ++ l.url ++ "\">" ++ l.target ++ "</a></li>") ++
       [Text.ofString "</ul>"])
  | .group _ name file =>
    [Text.ofString "<h1>" ++ name ++ "</h1>"] ++
    (if file.overview.isEmpty then []
     else [Text.ofString "<div class=\"overview\">" ++ file.overview ++ "</div>"]) ++
    file.symbols.flatMap symbolLines

/-- The HTML of a view, for a site of the pages `pages` (in code point order). -/
def renderPage (pages : List Text) (v : PageView) : Text :=
  Text.join "\n" <|
    ([ "<!DOCTYPE html>", "<html>", "<head>", "<meta charset=\"utf-8\">" ] : List Text) ++
    [Text.ofString "<title>" ++ v.title ++ "</title>"] ++
    ([ "<link rel=\"stylesheet\" href=\"styles.css\">",
     "<script src=\"scripts.js\"></script>", "</head>", "<body>", "<div id=\"index\">", "<ul>"] : List Text) ++
    pages.map (navItem v.page) ++
    ([ "<li><a href=\"javalibs.html\">Java Libraries</a></li>", "</ul>", "</div>",
     "<div id=\"content\">"] : List Text) ++
    contentLines v ++
    ([ "</div>", "</body>", "</html>"] : List Text)

end DocPages.Site
