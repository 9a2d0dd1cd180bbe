import DocPages.Page.Group
import DocPages.Page.Route
import DocPages.Log
/-!
# The page index

The index maps each page name to the group shown on it and the file whose symbols it shows.
It is built file by file and, within a file, symbol by symbol: every symbol writes its page's
entry. A page keeps the place where it was first written and shows the entry written last, so
the keys come in first-seen order and each key's entry comes from the last symbol routed there.
A file is named by its position in the run's list of files.
-/

namespace DocPages

/-- What a page shows: the group name and the position of the file. -/
structure IndexEntry where
  /-- The group documented on the page. -/
  name : Text
  /-- The position of the page's file in the list of files. -/
  file : Nat
  deriving Repr, DecidableEq, Inhabited

/-- Page names in first-written order, each with the entry written last. -/
structure PageIndex where
  /-- The pages and their entries; page names are distinct. -/
  entries : List (Text × IndexEntry) := []
  deriving Repr, DecidableEq, Inhabited

namespace PageIndex

/-- The entry of a page. -/
def find? (idx : PageIndex) (page : Text) : Option IndexEntry :=
  (idx.entries.find? (·.1 == page)).map (·.2)

/-- The page names, in order. -/
def keys (idx : PageIndex) : List Text :=
  idx.entries.map (·.1)

/-- Writes the entry of a page: in its place when the page is known, at the end otherwise. -/
def insert (idx : PageIndex) (page : Text) (e : IndexEntry) : PageIndex :=
  if idx.entries.any (·.1 == page) then
    ⟨idx.entries.map fun p => if p.1 == page then (page, e) else p⟩
  else ⟨idx.entries ++ [(page, e)]⟩

/-- Writes the entries of the file at position `pos`, one per symbol. -/
def addFile (idx : PageIndex) (pos : Nat) (f : SourceFile) : PageIndex :=
  (groupsOf f.symbols).foldl (fun idx g => idx.insert (pageFor g f.path) ⟨g, pos⟩) idx

/-- Writes the entries of the files, the first at position `pos`. -/
def addFiles (idx : PageIndex) (pos : Nat) : List SourceFile → PageIndex
  | [] => idx
  | f :: rest => (idx.addFile pos f).addFiles (pos + 1) rest

/-- The index of a list of files. -/
def build (files : List SourceFile) : PageIndex :=
  ({} : PageIndex).addFiles 0 files

/-- The debug notes of pages that change file while the index is built: the page, the new
file's path and the old one's. -/
def moveNotes (all : List SourceFile) (idx : PageIndex) (pos : Nat) :
    List SourceFile → List LogRecord
  | [] => []
  | f :: rest =>
    let step (st : PageIndex × List LogRecord) (g : Text) : PageIndex × List LogRecord :=
      let page := pageFor g f.path
      let note := match st.1.find? page with
        | some prev =>
          if prev.file != pos then
            [LogRecord.debug .routing (page ++ Text.ofString " now rendered from " ++ f.path ++ " (was " ++
              (all.getD prev.file {}).path ++ ")")]
          else []
        | none => []
      (st.1.insert page ⟨g, pos⟩, st.2 ++ note)
    let r := (groupsOf f.symbols).foldl step (idx, [])
    r.2 ++ moveNotes all r.1 (pos + 1) rest

/-- The debug records of building the index of `files`. -/
def buildLog (files : List SourceFile) : List LogRecord :=
  moveNotes files {} 0 files

end PageIndex

end DocPages
