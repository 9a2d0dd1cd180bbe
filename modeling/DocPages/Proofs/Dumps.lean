import DocPages.Doc.Dump
import Mathlib.Data.List.Forall2
/-!
# Reading symbol dumps

A symbol dump is read leniently below its root. The root must be an object or a list: an object
lists its files in its member `files`, a list is the list of files. Every element of that list
is one file, every element of a file's `symbols` one symbol, every element of a symbol's
`doc.tags` one tag, whatever their kinds: an element that is not an object reads as a record of
empty fields, a member that is not a list as no elements. A text field is the member's string,
the decimal text of a number, or empty. A symbol is a function when its `is_function` member is
true as a condition, and holds no rendered links.

The canonical dump of a file group writes each record as an object with one member per field,
the symbols' flags as truth values, and leaves out the rendered links. Reading it gives the group
back exactly when the group holds no rendered links.

## What is proved

* `Dump.text_str`, `Dump.text_int`, `Dump.text_float`, `Dump.text_eq_nil` — the lenient rules of
  a text field; `Dump.isFunction_symbol` — the rule of the function flag.
* `Dump.symbol_ofSymbol`, `Dump.file_ofFile` — reading a record's canonical dump gives the record
  with its rendered links left out.
* `FileGroup.ofJson_reads` — the root is refused exactly when it is neither an object nor a list;
  otherwise the group has one file per element of the file list, each read by the lenient rules;
  and a canonical dump, or the bare list of its files, reads back as the group exactly when the
  group holds no rendered links.
-/

namespace DocPages

namespace Dump

/-! ### The lenient field rules -/

/-- A string member reads as itself. -/
@[simp] theorem text_str (s : Text) : text (.str s) = s := rfl

/-- A number that is no truth value reads as its decimal text. -/
@[simp] theorem text_int (n : Int) : text (.int n) = Text.ofInt n := rfl

@[simp] theorem text_float (x : Binary64) : text (.float x) = x.repr := rfl

/-- Any other member, `null`, a truth value, a list or an object, reads as empty. -/
theorem text_eq_nil {raw : Json} (hs : ∀ s, raw ≠ .str s) (hn : ∀ n, raw ≠ .int n)
    (hx : ∀ x, raw ≠ .float x) : text raw = [] := by
  cases raw with
  | str s => exact absurd rfl (hs s)
  | int n => exact absurd rfl (hn n)
  | float x => exact absurd rfl (hx x)
  | null | bool _ | arr _ | obj _ => rfl

/-- A truth value is no number here: it reads as empty. -/
@[simp] theorem text_bool (b : Bool) : text (.bool b) = [] :=
  text_eq_nil (fun _ => Json.noConfusion) (fun _ => Json.noConfusion) (fun _ => Json.noConfusion)

@[simp] theorem text_null : text .null = [] := rfl

/-- A member that is not there reads as `null`. -/
theorem field_of_get?_eq_none {k : Text} {v : Json} (h : v.get? k = none) : field k v = .null := by
  simp [field, h]

theorem field_of_get?_eq_some {k : Text} {v w : Json} (h : v.get? k = some w) : field k v = w := by
  simp [field, h]

/-- A symbol is a function exactly when its member `is_function` is true as a condition, and is
none when there is no such member. -/
theorem isFunction_symbol (v : Json) :
    (symbol v).isFunction = ((v.get? "is_function").map Json.truthy).getD false := by
  cases h : v.get? "is_function" with
  | none => simp [symbol, field_of_get?_eq_none h, Json.truthy]
  | some w => simp [symbol, field_of_get?_eq_some h]

/-! ### What a payload holds -/

/-- The elements that stand for files: those of a list root, or of the member `files` of an
object root (none when it is not a list); nothing at all for any other root. -/
def filesOf : Json → Option (List Json)
  | .obj fields => some (items (field "files" (.obj fields)))
  | .arr xs => some xs
  | _ => none

end Dump

theorem FileGroup.ofJson_eq (v : Json) :
    FileGroup.ofJson v = match Dump.filesOf v with
      | some xs => .ok { files := xs.map Dump.file }
      | none => .error .notFileList := by
  cases v <;> rfl

/-! ### Canonical dumps -/

namespace Dump

/-- The canonical dump of a tag. -/
def ofTag (t : Tag) : Json :=
  .obj [("title", .str t.title), ("desc", .str t.desc)]

/-- The canonical dump of a symbol, without its rendered links. -/
def ofSymbol (s : Symbol) : Json :=
  .obj [("name", .str s.name), ("memberof", .str s.memberof), ("is_function", .bool s.isFunction),
    ("doc", .obj [("desc", .str s.doc.desc), ("tags", .arr (s.doc.tags.map ofTag))])]

/-- The canonical dump of a file. -/
def ofFile (f : SourceFile) : Json :=
  .obj [("path", .str f.path), ("overview", .str f.overview),
    ("symbols", .arr (f.symbols.map ofSymbol))]

/-- The canonical dump of a file group. -/
def ofGroup (g : FileGroup) : Json :=
  .obj [("files", .arr (g.files.map ofFile))]

theorem tag_ofTag (t : Tag) : tag (ofTag t) = t := rfl

theorem symbol_ofSymbol (s : Symbol) : symbol (ofSymbol s) = { s with renderedSeeTags := [] } := by
  have htags : items (field "tags" (field "doc" (ofSymbol s))) = s.doc.tags.map ofTag := rfl
  have hread : (s.doc.tags.map ofTag).map tag = s.doc.tags := by
    rw [List.map_map]
    exact List.map_id'' tag_ofTag _
  simp only [symbol, htags, hread]
  rfl

theorem file_ofFile (f : SourceFile) :
    file (ofFile f) = { f with symbols := f.symbols.map ({ · with renderedSeeTags := [] }) } := by
  have hsyms : items (field "symbols" (ofFile f)) = f.symbols.map ofSymbol := rfl
  simp only [file, hsyms, List.map_map, Function.comp_def, symbol_ofSymbol]
  rfl

end Dump

/-- A file group none of whose symbols holds rendered links. -/
def FileGroup.Unrendered (g : FileGroup) : Prop :=
  ∀ s ∈ g.symbols, s.renderedSeeTags = []

theorem Symbol.clear_eq_self_iff (s : Symbol) :
    { s with renderedSeeTags := [] } = s ↔ s.renderedSeeTags = [] := by
  cases s
  simp [eq_comm]

/-- A file is read back from its canonical dump exactly when none of its symbols holds rendered
links. -/
theorem Dump.file_ofFile_eq_self_iff (f : SourceFile) :
    Dump.file (Dump.ofFile f) = f ↔ ∀ s ∈ f.symbols, s.renderedSeeTags = [] := by
  rw [Dump.file_ofFile]
  cases f with
  | mk path symbols overview =>
    simp only [SourceFile.mk.injEq, and_true, true_and]
    nth_rewrite 2 [← List.map_id symbols]
    rw [List.map_inj_left]
    simp [Symbol.clear_eq_self_iff]

theorem FileGroup.ofJson_ofFiles (files : List SourceFile) :
    FileGroup.ofJson (.arr (files.map Dump.ofFile)) =
      .ok { files := files.map (Dump.file ∘ Dump.ofFile) } := by
  simp only [FileGroup.ofJson_eq, Dump.filesOf, List.map_map]

theorem FileGroup.ofJson_ofGroup (g : FileGroup) :
    FileGroup.ofJson (Dump.ofGroup g) = .ok { files := g.files.map (Dump.file ∘ Dump.ofFile) } := by
  rw [← FileGroup.ofJson_ofFiles]
  rfl

/-- The files of a group are read back from their canonical dumps exactly when the group holds
no rendered links. -/
theorem FileGroup.read_dumps_iff (g : FileGroup) :
    (⟨g.files.map (Dump.file ∘ Dump.ofFile)⟩ : FileGroup) = g ↔ g.Unrendered := by
  cases g with
  | mk files =>
    simp only [FileGroup.mk.injEq, FileGroup.Unrendered, FileGroup.symbols, List.mem_flatMap]
    nth_rewrite 2 [← List.map_id files]
    rw [List.map_inj_left]
    simp only [Function.comp_apply, id_eq, Dump.file_ofFile_eq_self_iff]
    constructor
    · rintro h s ⟨f, hf, hs⟩
      exact h f hf s hs
    · intro h f hf s hs
      exact h s ⟨f, hf, hs⟩

/-- **Reading a symbol dump.** The root is refused exactly when it is neither an object nor a
list. Otherwise the group read has one file per element of the file list (the root itself, or
the member `files` of an object when that is a list), in order, each read from its element by
`Dump.file`: one symbol per element of its `symbols` and one tag per element of each symbol's
`doc.tags`, a member of the wrong kind reading as no elements. Each text field reads its member
by the lenient rules: a string as itself, a number that is no truth value as its decimal text,
anything else as empty. A symbol is a function by the truth of its member `is_function`, and not
when there is none, and holds no rendered links. The canonical dump of a group, or the bare list
of its files' dumps, reads back as the group exactly when it holds no rendered links. -/
theorem FileGroup.ofJson_reads (v : Json) :
    (FileGroup.ofJson v = .error .notFileList ↔ (∀ fields, v ≠ .obj fields) ∧ ∀ xs, v ≠ .arr xs) ∧
    (∀ xs, Dump.filesOf v = some xs → FileGroup.ofJson v = .ok ⟨xs.map Dump.file⟩) ∧
    (∀ raw : Json, (∀ s, raw = .str s → Dump.text raw = s) ∧
      (∀ n, raw = .int n → Dump.text raw = Text.ofInt n) ∧
      (∀ x, raw = .float x → Dump.text raw = x.repr) ∧
      ((∀ s, raw ≠ .str s) → (∀ n, raw ≠ .int n) → (∀ x, raw ≠ .float x) → Dump.text raw = [])) ∧
    (∀ y : Json, (Dump.symbol y).isFunction = ((y.get? "is_function").map Json.truthy).getD false ∧
      (Dump.symbol y).renderedSeeTags = []) ∧
    (∀ g : FileGroup, FileGroup.ofJson (Dump.ofGroup g) = .ok g ↔ g.Unrendered) ∧
    (∀ g : FileGroup, FileGroup.ofJson (.arr (g.files.map Dump.ofFile)) = .ok g ↔ g.Unrendered) := by
  refine ⟨?_, fun xs hxs => ?_, fun raw => ?_, fun y => ⟨Dump.isFunction_symbol y, rfl⟩, fun g => ?_,
    fun g => ?_⟩
  · cases v <;> simp [FileGroup.ofJson]
  · rw [FileGroup.ofJson_eq, hxs]
  · refine ⟨?_, ?_, ?_, Dump.text_eq_nil⟩ <;> rintro _ rfl <;> simp
  · rw [FileGroup.ofJson_ofGroup, Except.ok.injEq, FileGroup.read_dumps_iff]
  · rw [FileGroup.ofJson_ofFiles, Except.ok.injEq, FileGroup.read_dumps_iff]

end DocPages
