import DocPages.Text.Basic
/-!
# The packaged page template and assets

The default page template and the two static assets shipped with it, line by line. Each file
is its lines, each ended by a line break. The template is rendered by `Site.Page`; it is kept
here as text too because it is a file of the template directory like any other, which asset
patterns may copy.
-/

namespace DocPages.Site

/-- Lines of the default page template `main.html.j2`. -/
def templateLines : List String := [
  "<!DOCTYPE html>",
  "<html>",
  "<head>",
  "<meta charset=\"utf-8\">",
  "\x7b% if docjar %\x7d",
  "<title>Java Libraries</title>",
  "\x7b% else %\x7d",
  "<title>\x7b\x7b name \x7d\x7d</title>",
  "\x7b% endif %\x7d",
  "<link rel=\"stylesheet\" href=\"styles.css\">",
  "<script src=\"scripts.js\"></script>",
  "</head>",
  "<body>",
  "<div id=\"index\">",
  "<ul>",
  "\x7b% for other in pages %\x7d",
  "<li\x7b% if other == page %\x7d class=\"current\"\x7b% endif %\x7d><a href=\"\x7b\x7b other \x7d\x7d\">\x7b\x7b other[:-5] \x7d\x7d</a></li>",
  "\x7b% endfor %\x7d",
  "<li><a href=\"javalibs.html\">Java Libraries</a></li>",
  "</ul>",
  "</div>",
  "<div id=\"content\">",
  "\x7b% if docjar %\x7d",
  "<h1>Java Libraries</h1>",
  "\x7b% if java_links %\x7d",
  "<ul class=\"javalibs\">",
  "\x7b% for link in java_links %\x7d",
  "<li><a href=\"\x7b\x7b link.url \x7d\x7d\">\x7b\x7b link.target \x7d\x7d</a></li>",
  "\x7b% endfor %\x7d",
  "</ul>",
  "\x7b% else %\x7d",
  "<p>No Java classes are referenced.</p>",
  "\x7b% endif %\x7d",
  "\x7b% else %\x7d",
  "<h1>\x7b\x7b name \x7d\x7d</h1>",
  "\x7b% if file.overview %\x7d",
  "<div class=\"overview\">\x7b\x7b file.overview \x7d\x7d</div>",
  "\x7b% endif %\x7d",
  "\x7b% for symbol in symbols %\x7d",
  "<div class=\"symbol\x7b% if symbol.is_function %\x7d function\x7b% endif %\x7d\" id=\"\x7b\x7b symbol.qualified_name \x7d\x7d\">",
  "<h2><a name=\"\x7b\x7b symbol.qualified_name \x7d\x7d\">\x7b\x7b symbol.qualified_name \x7d\x7d\x7b% if symbol.is_function %\x7d()\x7b% endif %\x7d</a></h2>",
  "\x7b% if symbol.doc.desc %\x7d",
  "<div class=\"description\">\x7b\x7b symbol.doc.desc \x7d\x7d</div>",
  "\x7b% endif %\x7d",
  "\x7b% for tag in symbol.doc.tags if tag.title == \"param\" %\x7d",
  "<div class=\"param\">\x7b\x7b tag.desc \x7d\x7d</div>",
  "\x7b% endfor %\x7d",
  "\x7b% for tag in symbol.doc.tags if tag.title in (\"returns\", \"return\", \"type\") %\x7d",
  "<div class=\"\x7b\x7b tag.title \x7d\x7d\">\x7b\x7b tag.desc \x7d\x7d</div>",
  "\x7b% endfor %\x7d",
  "\x7b% for see in symbol.rendered_see_tags %\x7d",
  "\x7b\x7b see \x7d\x7d",
  "\x7b% endfor %\x7d",
  "</div>",
  "\x7b% endfor %\x7d",
  "\x7b% endif %\x7d",
  "</div>",
  "</body>",
  "</html>"]

/-- Lines of the default style sheet `styles.css`. -/
def stylesLines : List String := [
  "body \x7b font-family: Verdana, Arial, sans-serif; font-size: 12px; margin: 0; \x7d",
  "#index \x7b float: left; width: 220px; padding: 10px; background: #f2f2f2; \x7d",
  "#index ul \x7b list-style: none; margin: 0; padding: 0; \x7d",
  "#index li.current a \x7b font-weight: bold; \x7d",
  "#content \x7b margin-left: 250px; padding: 10px 20px; \x7d",
  ".symbol \x7b border-top: 1px solid #ccc; padding: 8px 0; \x7d",
  ".symbol h2 \x7b font-size: 14px; margin: 0 0 6px; \x7d",
  ".param, .returns, .return, .type \x7b margin-left: 16px; color: #444; \x7d",
  ".see \x7b margin-left: 16px; \x7d",
  ".see:before \x7b content: \"See: \"; color: #888; \x7d"]

/-- Lines of the default script `scripts.js`. -/
def scriptsLines : List String := [
  "function highlightTarget() \x7b",
  "    var id = window.location.hash.slice(1);",
  "    var element = id && document.getElementById(id);",
  "    if (element) \x7b",
  "        element.className += \" target\";",
  "    \x7d",
  "\x7d",
  "window.onload = highlightTarget;",
  "window.onhashchange = highlightTarget;"]

/-- A file of lines, each ended by a line break. -/
def linesText (lines : List String) : Text :=
  Text.ofString (String.join (lines.map (· ++ "\n")))

/-- The files of the packaged template directory: name and text. -/
def packagedFiles : List (Text × Text) :=
  [("main.html.j2", linesText templateLines), ("scripts.js", linesText scriptsLines),
    ("styles.css", linesText stylesLines)]

end DocPages.Site
