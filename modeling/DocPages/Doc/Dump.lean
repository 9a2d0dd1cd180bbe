import DocPages.Doc.Basic
import DocPages.Json.Reader
import DocPages.Stack
import DocPages.Text.Utf8
/-!
# Symbol dumps

A symbol dump is JSON: an object whose `files` member lists the files, or the list itself. The
reading is lenient below the root: a member of the wrong kind reads as empty, a string as itself,
a number (not a truth value) as its decimal text, anything else as the empty string, and
`is_function` by the truth of its value. A dump file must be UTF-8 and hold one JSON value; an
integer of too many digits or containers nested too deeply stop the reading with errors of their
own.

The JSON reader runs `readerFrames` frames above the loader of the dump, and each open container
takes one frame more, so the depth at which the loader is called decides how deep a dump may
nest.
-/

namespace DocPages

/-- Why a symbol dump cannot be read. -/
inductive DumpError where
  /-- The root is neither an object nor a list. -/
  | notFileList
  /-- The file, shown as `file`, is not UTF-8. -/
  | notUtf8 (file : Text)
  /-- The file, shown as `file`, does not hold one JSON value. -/
  | notJson (file : Text)
  /-- The JSON text stopped at a limit before its end was reached. -/
  | limit (e : Json.ReadError)
  deriving Repr, DecidableEq, Inhabited

/-- The error's message. -/
def DumpError.message : DumpError → Text
  | .notFileList => "Symbol dump must be an object or a list of files"
  | .notUtf8 file => file ++ " is not UTF-8 encoded"
  | .notJson file => file ++ " is not valid JSON"
  | .limit e => e.message

namespace Dump

/-- A member read as text: a string as itself, a number as its decimal text, else empty. -/
def text : Json → Text
  | .str s => s
  | .int n => Text.ofInt n
  | .float x => x.repr
  | _ => []

/-- A member read as a list: the elements of an array, else none. -/
def items : Json → List Json
  | .arr xs => xs
  | _ => []

/-- Member `k` of an object, or `null`. -/
def field (k : Text) (v : Json) : Json :=
  (v.get? k).getD .null

/-- A tag record. -/
def tag (v : Json) : Tag :=
  { title := text (field "title" v), desc := text (field "desc" v) }

/-- A symbol record. -/
def symbol (v : Json) : Symbol :=
  let doc := field "doc" v
  { name := text (field "name" v), memberof := text (field "memberof" v),
    doc := { desc := text (field "desc" doc), tags := (items (field "tags" doc)).map tag },
    isFunction := (field "is_function" v).truthy }

/-- A file record. -/
def file (v : Json) : SourceFile :=
  { path := text (field "path" v), symbols := (items (field "symbols" v)).map symbol,
    overview := text (field "overview" v) }

end Dump

/-- The file group a dump holds. -/
def FileGroup.ofJson : Json → Except DumpError FileGroup
  | .obj fields => .ok { files := (Dump.items ((Json.obj fields).get? "files" |>.getD .null)).map Dump.file }
  | .arr xs => .ok { files := xs.map Dump.file }
  | _ => .error .notFileList

/-- How many frames above the loader of a dump the JSON reader starts: the reading of the text,
the decoding, the reading of a value and the reader's own entry. -/
def Dump.readerFrames : Nat := 4

/-- How deep the containers of a dump may nest when its loader runs at `depth`. -/
def Dump.room (depth : Nat) : Nat :=
  Stack.room (depth + Dump.readerFrames)

/-- The file group a dump file holds, read by a loader running at `depth` on the stack; `shown`
is how the file is named in errors. -/
def FileGroup.ofDumpBytes (depth : Nat) (shown : Text) (bytes : List UInt8) :
    Except DumpError FileGroup :=
  match Text.decodeUtf8 bytes with
  | .error _ => .error (.notUtf8 shown)
  | .ok s =>
    match Json.read (Dump.room depth) s with
    | .error .malformed => .error (.notJson shown)
    | .error e => .error (.limit e)
    | .ok v => FileGroup.ofJson v

end DocPages
