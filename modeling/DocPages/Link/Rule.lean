import DocPages.Text.Basic
/-!
# Reference rules

The seven ways a `@see` reference becomes an address, tried in a fixed order; the first that
accepts the reference decides. The tests overlap (a member of a namespace also has one dot),
so the order is part of the meaning.

- **namespace**: the first dot-separated segment is a configured namespace; the page is the
  first two segments.
- **relative**: `#member` names a member of the referring symbol's owner (of `global` when it
  has none).
- **page**: a reference without a dot names a page.
- **member**: `owner.member` is an anchor on the owner's page; the `global` page anchors by the
  member alone.
- **prototype**: `Owner.prototype.member`, with the separator exactly once, is an anchor on the
  owner's extensions page.
- **javadoc**: `Packages.helma.` and a class path is a page of the Java API documentation.
- **search**: any other `Packages.` reference is a search for the class.

Only the relative rule reads the owner, and only the last two lead outside the documentation.
The settings say where those two lead, and which namespaces have pages of their own.
-/

namespace DocPages

/-- External locations and namespaces that references are resolved against. -/
structure LinkSettings where
  /-- Base address of the Java API documentation. -/
  javadocBaseUrl : Text := "http://adele.helma.org/download/helma/apidocs/api/"
  /-- Address of a search, to which a class name is appended. -/
  searchUrl : Text := "http://google.com/search?q="
  /-- Namespaces documented on pages of their own. -/
  namespaces : List Text := ["helma", "jala"]
  deriving Repr, DecidableEq, Inhabited

open Text

/-- A rule that turns a reference into an address. -/
inductive Rule where
  /-- A member of a configured namespace. -/
  | inNamespace
  /-- `#member`, relative to the referring symbol's owner. -/
  | relative
  /-- A page name without a dot. -/
  | page
  /-- `owner.member`. -/
  | member
  /-- `Owner.prototype.member`. -/
  | prototype
  /-- A class of the Java API documentation. -/
  | javadoc
  /-- Any other Java class, by search. -/
  | search
  deriving Repr, DecidableEq, Inhabited

namespace Rule

/-- The rules in the order they are tried. -/
def order : List Rule :=
  [inNamespace, relative, page, member, prototype, javadoc, search]

/-- The rule's name. -/
def name : Rule → Text
  | inNamespace => "namespace"
  | relative => "relative"
  | page => "page"
  | member => "member"
  | prototype => "prototype"
  | javadoc => "javadoc"
  | search => "search"

/-- The separator of a prototype reference. -/
def prototypeSeparator : Text := ".prototype."

/-- The prefix of a reference to the Java API documentation. -/
def javadocPrefix : Text := "Packages.helma."

/-- The prefix of a reference to any Java class. -/
def packagesPrefix : Text := "Packages."

/-- Whether the rule accepts reference `item`. -/
def accepts (st : LinkSettings) (item : Text) : Rule → Bool
  | inNamespace => st.namespaces.contains ((splitOn '.' item).headD "")
  | relative => startsWith item "#"
  | page => !item.any (· == .char '.')
  | member => (splitOn '.' item).length == 2
  | prototype => count prototypeSeparator item == 1
  | javadoc => startsWith item javadocPrefix
  | search => startsWith item packagesPrefix

/-- `owner.` for an owner, nothing without one. -/
def ownerPrefix (memberof : Text) : Text :=
  if memberof.isEmpty then [] else memberof ++ "."

/-- The text a relative reference is shown as: the member, qualified by the owner. -/
def relativeLabel (item memberof : Text) : Text :=
  ownerPrefix memberof ++ item.drop 1

/-- The address the rule gives reference `item` of a symbol owned by `memberof`. -/
def url (st : LinkSettings) (item memberof : Text) : Rule → Text
  | inNamespace => join "." ((splitOn '.' item).take 2) ++ ".html#" ++ item
  | relative =>
    (if memberof.isEmpty then Text.ofString "global" else memberof) ++ ".html#" ++
      relativeLabel item memberof
  | page => item ++ ".html"
  | member =>
    match splitOn '.' item with
    | [owner, m] => owner ++ ".html#" ++ (if owner == "global" then m else item)
    | _ => item
  | prototype =>
    match splitOnText prototypeSeparator item with
    | [owner, m] => owner ++ "Extensions.html#" ++ owner ++ "." ++ m
    | _ => item
  | javadoc =>
    st.javadocBaseUrl ++ join "/" (splitOn '.' (item.drop javadocPrefix.length)) ++ ".html"
  | search => st.searchUrl ++ item.drop packagesPrefix.length

/-- The text the rule shows reference `item` as. -/
def label (item memberof : Text) : Rule → Text
  | relative => relativeLabel item memberof
  | _ => item

/-- Whether the rule leads outside the documentation. -/
def external : Rule → Bool
  | javadoc => true
  | search => true
  | _ => false

/-- The first rule, in order, that accepts `item`. -/
def firstMatch (st : LinkSettings) (item : Text) : Option Rule :=
  order.find? (·.accepts st item)

end Rule

end DocPages
