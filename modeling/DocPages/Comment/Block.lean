import DocPages.Doc.Basic
import DocPages.Text.Case
/-!
# Reading a comment body

A body is read line by line. Each line is stripped of whitespace and then of one leading `*`
and the whitespace after it. A line that starts with `@` and a word is a tag line: the word,
lowercased, is the tag's title and the stripped rest its text. The lines before the first tag
line are the description, joined by line breaks and stripped; a non-empty line after a tag line
continues that tag's text, joined by one space.
-/

namespace DocPages.Comment

open Text

/-- A line stripped of whitespace and of one leading `*` with the whitespace after it. -/
def processLine (raw : Text) : Text :=
  match strip raw with
  | .char '*' :: rest => strip rest
  | line => line

/-- The title and the stripped text of a tag line. -/
def tagLine? : Text → Option (Text × Text)
  | .char '@' :: rest =>
    let title := rest.takeWhile isWordChar
    if title.isEmpty then none else some (title, strip (rest.dropWhile isWordChar))
  | _ => none

/-- The description lines and the tags, both reversed, after reading one more line. -/
def readLine (st : List Text × List Tag) (line : Text) : List Text × List Tag :=
  match tagLine? line, st.2 with
  | some (title, desc), tags => (st.1, { title := lower title, desc } :: tags)
  | none, t :: tags =>
    if line.isEmpty then st
    else (st.1, { t with desc := strip (t.desc ++ " " ++ line) } :: tags)
  | none, [] => (line :: st.1, [])

/-- The doc comment a body holds. -/
def parseBody (body : Text) : DocComment :=
  let st := ((splitLines body).map processLine).foldl readLine ([], [])
  { desc := strip (join "\n" st.1.reverse), tags := st.2.reverse }

end DocPages.Comment
