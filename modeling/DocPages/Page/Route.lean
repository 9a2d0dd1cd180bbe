import DocPages.Text.Basic
/-!
# Page names

The page a group of a file is documented on. Paths are read anchored, with a leading `/`, so
that a label `core/x.js` counts as a core file. The first rule that applies names the page:

- a core file's `_filter` groups go to `MacroFilters.html`, its `_macro` groups to
  `GlobalMacros.html`, a core `JSON.js` to `JSON.html`, and any other core group `g` to
  `gExtensions.html`;
- any other group `g` goes to `g.html`.

After that, the `HopObject.js` of a `/jala/code/` directory always goes to
`jala.HopObjectExtensions.html`.
-/

namespace DocPages

open Text

/-- The path with a leading `/`. -/
def anchored (path : Text) : Text :=
  if startsWith path "/" then path else Text.ofString "/" ++ path

/-- Whether a path lies in a `core` directory. -/
def inCore (path : Text) : Bool :=
  contains (anchored path) "/core/"

/-- A rule that names the page of a group of a file. -/
inductive PageRule where
  /-- Macro filters of the core. -/
  | macroFilters
  /-- Global macros of the core. -/
  | globalMacros
  /-- The core JSON file. -/
  | json
  /-- Extensions of a core object. -/
  | coreExtensions
  /-- Any other group. -/
  | group
  deriving Repr, DecidableEq, Inhabited

namespace PageRule

/-- The rules in the order they are tried. -/
def order : List PageRule :=
  [macroFilters, globalMacros, json, coreExtensions, group]

/-- Whether the rule applies to group `g` of the file at `path`. -/
def applies (g path : Text) : PageRule → Bool
  | macroFilters => inCore path && contains g "_filter"
  | globalMacros => inCore path && contains g "_macro"
  | json => inCore path && contains path "JSON.js"
  | coreExtensions => inCore path
  | group => true

/-- The page the rule names for group `g`. -/
def page (g : Text) : PageRule → Text
  | macroFilters => "MacroFilters.html"
  | globalMacros => "GlobalMacros.html"
  | json => "JSON.html"
  | coreExtensions => g ++ "Extensions.html"
  | group => g ++ ".html"

end PageRule

/-- Whether the file is the `HopObject.js` of a `/jala/code/` directory. -/
def isJalaHopObject (path : Text) : Bool :=
  contains (anchored path) "/jala/code/" && contains path "HopObject.js"

/-- The page that group `g` of the file at `path` is documented on. -/
def pageFor (g path : Text) : Text :=
  if isJalaHopObject path then "jala.HopObjectExtensions.html"
  else
    match PageRule.order.find? (·.applies g path) with
    | some r => r.page g
    | none => g ++ ".html"

end DocPages
