import DocPages.Link.Rule
import DocPages.Text.Quoted
/-!
# Resolved references

`SeeLink.resolve` turns a reference into a link by the first rule that accepts it; a reference
no rule accepts links to itself. `SeeLink.render` writes a link as one line of HTML, the address
escaped as an attribute value and the text escaped as element content.

Text placed into HTML is escaped code point by code point: `&`, `<` and `>` always, and in an
attribute value also the double quote and the apostrophe. Every escape starts with `&` and
every `&` of the output starts an escape, so the escaped text can be read back.
-/

namespace DocPages.Text

/-- The escape of one code point; `attr` selects attribute values, which escape quotes too. -/
def htmlEscapePoint (attr : Bool) (c : Point) : Text :=
  if c == .char '&' then "&amp;"
  else if c == .char '<' then "&lt;"
  else if c == .char '>' then "&gt;"
  else if attr && c == .char '"' then "&quot;"
  else if attr && c == .char (Char.ofNat 0x27) then "&#x27;"
  else [c]

/-- The text escaped for HTML; `attr` selects attribute values. -/
def htmlEscape (attr : Bool) (t : Text) : Text :=
  t.flatMap (htmlEscapePoint attr)

end DocPages.Text

namespace DocPages

/-- A resolved reference: what was referenced, the address, the text shown, the rule that
decided and whether the address leads outside the documentation. -/
structure SeeLink where
  /-- The reference as written. -/
  target : Text
  /-- The address it resolved to. -/
  url : Text
  /-- The text the link shows. -/
  text : Text
  /-- The rule that decided, if any accepted the reference. -/
  rule : Option Rule := none
  /-- Whether the address leads outside the documentation. -/
  external : Bool := false
  deriving Repr, DecidableEq, Inhabited

namespace SeeLink

/-- The link for reference `item` of a symbol owned by `memberof`. -/
def resolve (st : LinkSettings) (item memberof : Text) : SeeLink :=
  match Rule.firstMatch st item with
  | none => { target := item, url := item, text := item }
  | some r =>
    { target := item, url := r.url st item memberof, text := r.label item memberof,
      rule := some r, external := r.external }

/-- The link as one line of HTML. -/
def render (l : SeeLink) : Text :=
  Text.ofString "<div class=\"see\"><a href=\"" ++ Text.htmlEscape true l.url ++ "\">" ++
    Text.htmlEscape false l.text ++ "</a></div>"

/-- The debug message that records how the link was resolved. -/
def logMessage (l : SeeLink) : Text :=
  match l.rule with
  | none => Text.ofString "No rule matched " ++ Text.quoted l.target ++ "; using it as the URL"
  | some r => Text.ofString "Resolved " ++ Text.quoted l.target ++ " via " ++ r.name ++ " rule -> " ++ l.url

end SeeLink

end DocPages
