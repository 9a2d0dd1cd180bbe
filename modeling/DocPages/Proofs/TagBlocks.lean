import DocPages.Comment.Block
import Mathlib.Data.List.DropRight
/-!
# Tag blocks of a comment body

A comment body is read line by line, each line stripped of whitespace and of one leading `*`.
The processed lines fall into two parts: the lines before the first tag line, which make the
description, and blocks, each a tag line followed by the lines up to the next tag line. A tag
line is `@`, a word and the rest of the line; its tag is the word in lowercase, and its text
is the rest of the line and the block's other lines, the non-empty ones joined by single spaces.

The reader does not cut the lines into blocks: it keeps the tags read so far and appends each
non-empty line to the last one's text, stripping the result every time. That this is the same
as joining the block's non-empty lines rests on one invariant: the text being built is always
stripped, and so are the lines appended to it.

## What is proved

* `Text.stripped_strip`, `Text.strip_of_stripped` — what stripping leaves has no whitespace at
  either end, and a text with none is its own strip.
* `foldl_glue` — appending lines one at a time, stripping each time, is joining the non-empty
  ones by single spaces.
* `exists_cut` — every list of lines cuts into the lines before the first tag line and tag
  blocks.
* `parseBody_eq_blocks` — the doc comment of a body is its description lines joined and
  stripped, and one tag per block, for any such cut of its processed lines.
-/

namespace DocPages

/-! ### Stripped texts -/

namespace Text

/-- A text with no whitespace at either end. -/
def Stripped (t : Text) : Prop :=
  (∀ c ∈ t.head?, isSpace c = false) ∧ (∀ c ∈ t.getLast?, isSpace c = false)

theorem strip_eq_rdropWhile (t : Text) : strip t = (t.dropWhile isSpace).rdropWhile isSpace := rfl

theorem stripped_strip (t : Text) : Stripped (strip t) := by
  rw [strip_eq_rdropWhile]
  constructor
  · intro c hc
    have hne : (t.dropWhile isSpace).rdropWhile isSpace ≠ [] := by
      intro h
      simp [h] at hc
    have hhead := (List.rdropWhile_prefix isSpace (t.dropWhile isSpace)).head hne
    rw [List.head?_eq_some_head hne, Option.mem_some_iff] at hc
    rw [← hc, hhead]
    exact List.head_dropWhile_not isSpace _
  · intro c hc
    have hne : (t.dropWhile isSpace).rdropWhile isSpace ≠ [] := by
      intro h
      simp [h] at hc
    rw [List.getLast?_eq_some_getLast hne, Option.mem_some_iff] at hc
    rw [← hc]
    simpa using List.rdropWhile_last_not isSpace (t.dropWhile isSpace) hne

theorem strip_of_stripped {t : Text} (h : Stripped t) : strip t = t := by
  have hfront : t.dropWhile isSpace = t := by
    cases t with
    | nil => rfl
    | cons c r => exact List.dropWhile_cons_of_neg (by simpa using h.1 c rfl)
  rw [strip_eq_rdropWhile, hfront, List.rdropWhile_eq_self_iff]
  intro hne
  simpa using h.2 _ (List.getLast?_eq_some_getLast hne)

theorem strip_space_cons {t : Text} (h : Stripped t) : strip (.char ' ' :: t) = t := by
  rw [strip_eq_rdropWhile, List.dropWhile_cons_of_pos (by decide), ← strip_eq_rdropWhile,
    strip_of_stripped h]

/-- Two texts without whitespace at their ends, joined by a space, have none at theirs. -/
theorem Stripped.append_space {a b : Text} (ha : Stripped a) (ha0 : a ≠ []) (hb : Stripped b)
    (hb0 : b ≠ []) : Stripped (a ++ .char ' ' :: b) := by
  constructor
  · intro c hc
    rw [List.head?_append, List.head?_eq_some_head ha0] at hc
    exact ha.1 c (by simpa [List.head?_eq_some_head ha0] using hc)
  · intro c hc
    have hlast : (a ++ .char ' ' :: b).getLast? = b.getLast? := by
      rw [List.getLast?_append, List.getLast?_cons, List.getLast?_eq_some_getLast hb0]
      simp
    exact hb.2 c (hlast ▸ hc)

theorem stripped_nil : Stripped [] := ⟨by simp, by simp⟩

end Text

open Text

/-! ### Joining continuation lines -/

namespace Comment

/-- One more line of a tag's text: an empty line adds nothing, any other is appended after a
space and the whole stripped. -/
def glue (d l : Text) : Text :=
  if l.isEmpty then d else strip (d ++ " " ++ l)

theorem ofString_space : Text.ofString " " = [Point.char ' '] := rfl

theorem glue_of_nil_left {l : Text} (hl : Stripped l) : glue [] l = l := by
  cases l with
  | nil => rfl
  | cons c r => simpa [glue, ofString_space] using strip_space_cons hl

theorem glue_of_ne_nil {d l : Text} (hd : Stripped d) (hd0 : d ≠ []) (hl : Stripped l)
    (hl0 : l ≠ []) : glue d l = d ++ .char ' ' :: l := by
  have h := strip_of_stripped (hd.append_space hd0 hl hl0)
  simpa [glue, hl0, ofString_space] using h

theorem stripped_glue {d l : Text} (hd : Stripped d) (hl : Stripped l) : Stripped (glue d l) := by
  by_cases hl0 : l = []
  · simpa [glue, hl0] using hd
  by_cases hd0 : d = []
  · subst hd0
    rwa [glue_of_nil_left hl]
  · rw [glue_of_ne_nil hd hd0 hl hl0]
    exact hd.append_space hd0 hl hl0

/-- A non-empty text in front of texts joined by spaces. -/
theorem join_space_cons (a : Text) (ts : List Text) :
    join " " (a :: ts) = if ts = [] then a else a ++ .char ' ' :: join " " ts := by
  cases ts with
  | nil => simp [join]
  | cons t ts => simp [join, List.intercalate_cons_cons, ofString_space]

/-- **Appending lines one at a time is joining them.** Starting from a stripped text and
appending stripped lines, each non-empty one after a space with the result stripped, gives the
non-empty texts among them joined by single spaces. -/
theorem foldl_glue (ls : List Text) {d : Text} (hd : Stripped d) (hls : ∀ l ∈ ls, Stripped l) :
    ls.foldl glue d = join " " ((d :: ls).filter (!·.isEmpty)) := by
  induction ls generalizing d with
  | nil => cases d <;> simp [join]
  | cons l ls ih =>
    rw [List.foldl_cons, ih (stripped_glue hd (hls l (by simp))) (fun m hm => hls m (by simp [hm]))]
    have hl := hls l (by simp)
    by_cases hl0 : l = []
    · subst hl0
      simp [glue, List.filter_cons]
    have hl1 : l.isEmpty = false := List.isEmpty_eq_false_iff.mpr hl0
    by_cases hd0 : d = []
    · subst hd0
      simp [glue_of_nil_left hl, hl1]
    · have hd1 : d.isEmpty = false := List.isEmpty_eq_false_iff.mpr hd0
      have hdl : (d ++ Point.char ' ' :: l).isEmpty = false := by simp
      rw [glue_of_ne_nil hd hd0 hl hl0]
      simp only [List.filter_cons, hd1, hl1, hdl, Bool.not_false, if_true]
      rw [join_space_cons (d ++ _), join_space_cons d, join_space_cons l]
      split <;> simp

/-! ### Tag lines and blocks -/

/-- Whether a processed line is a tag line: `@` and then a word character. -/
def isTagLine : Text → Bool
  | .char '@' :: c :: _ => isWordChar c
  | _ => false

theorem tagLine?_of_isTagLine_eq_false {l : Text} (h : isTagLine l = false) :
    tagLine? l = none := by
  unfold tagLine?
  split
  · rename_i rest
    cases rest with
    | nil => rfl
    | cons c r =>
      have hc : isWordChar c = false := h
      simp [hc]
  · rfl

theorem eq_of_isTagLine {l : Text} (h : isTagLine l = true) :
    ∃ c r, l = Point.char '@' :: c :: r ∧ isWordChar c = true := by
  unfold isTagLine at h
  split at h
  · exact ⟨_, _, rfl, h⟩
  · cases h

/-- A tag line, `@`, a word and the rest of the line, with the lines that continue it up to the
next tag line. The word is the longest run of word characters after `@`: the rest does not
start with one. -/
structure TagBlock where
  /-- The word after `@`. -/
  title : Text
  /-- The rest of the tag line, as written. -/
  rest : Text
  /-- The lines after the tag line, up to the next tag line. -/
  more : List Text
  title_ne_nil : title ≠ []
  title_word : ∀ c ∈ title, isWordChar c = true
  rest_head : ∀ c ∈ rest.head?, isWordChar c = false
  more_untagged : ∀ l ∈ more, isTagLine l = false

namespace TagBlock

/-- The lines of a block: its tag line, then the lines continuing it. -/
def lines (b : TagBlock) : List Text :=
  (Point.char '@' :: (b.title ++ b.rest)) :: b.more

/-- The tag of a block: the word in lowercase, and the stripped rest of the tag line and the
block's other lines, the non-empty ones joined by single spaces. -/
def tag (b : TagBlock) : Tag :=
  { title := lower b.title, desc := join " " ((strip b.rest :: b.more).filter (!·.isEmpty)) }

theorem tagLine?_head (b : TagBlock) :
    tagLine? (Point.char '@' :: (b.title ++ b.rest)) = some (b.title, strip b.rest) := by
  have hstop : b.rest.takeWhile isWordChar = [] := by
    cases h : b.rest with
    | nil => rfl
    | cons c r => simp [b.rest_head c (by simp [h])]
  have hdrop : b.rest.dropWhile isWordChar = b.rest := by
    cases h : b.rest with
    | nil => rfl
    | cons c r => simp [b.rest_head c (by simp [h])]
  have hword : ∀ c ∈ b.title, isWordChar c := fun c hc => b.title_word c hc
  simp [tagLine?, List.takeWhile_append_of_pos hword, List.dropWhile_append_of_pos hword, hstop,
    hdrop, b.title_ne_nil]

/-- The block that a tag line starts, with the lines continuing it. -/
def ofTagLine {l : Text} (h : isTagLine l = true) (more : List Text)
    (hmore : ∀ m ∈ more, isTagLine m = false) : TagBlock where
  title := (l.drop 1).takeWhile isWordChar
  rest := (l.drop 1).dropWhile isWordChar
  more := more
  title_ne_nil := by
    obtain ⟨c, r, hl, hc⟩ := eq_of_isTagLine h
    simp [hl, hc]
  title_word := fun c hc => List.mem_takeWhile_imp hc
  rest_head := by
    intro c hc
    have hnot := List.head?_dropWhile_not isWordChar (l.drop 1)
    rw [Option.mem_def] at hc
    rw [hc] at hnot
    exact hnot
  more_untagged := hmore

theorem lines_ofTagLine {l : Text} (h : isTagLine l = true) (more : List Text)
    (hmore : ∀ m ∈ more, isTagLine m = false) : (ofTagLine h more hmore).lines = l :: more := by
  obtain ⟨c, r, rfl, -⟩ := eq_of_isTagLine h
  simp [ofTagLine, lines]

end TagBlock

/-! ### Reading the lines -/

section Reading

variable {l : Text} (d : List Text)

theorem readLine_of_tagLine? {title desc : Text} (h : tagLine? l = some (title, desc))
    (ts : List Tag) : readLine (d, ts) l = (d, { title := lower title, desc } :: ts) := by
  simp [readLine, h]

theorem readLine_untagged_nil (h : isTagLine l = false) : readLine (d, []) l = (l :: d, []) := by
  simp [readLine, tagLine?_of_isTagLine_eq_false h]

theorem readLine_untagged_cons (h : isTagLine l = false) (t : Tag) (ts : List Tag) :
    readLine (d, t :: ts) l = (d, { t with desc := glue t.desc l } :: ts) := by
  by_cases hl : l.isEmpty <;> simp [readLine, tagLine?_of_isTagLine_eq_false h, glue, hl]

/-- Before the first tag line, every line is a description line. -/
theorem foldl_readLine_untagged_nil {pre : List Text} (hpre : ∀ l ∈ pre, isTagLine l = false) :
    pre.foldl readLine (d, []) = (pre.reverse ++ d, []) := by
  induction pre generalizing d with
  | nil => rfl
  | cons l pre ih =>
    rw [List.foldl_cons, readLine_untagged_nil d (hpre l (by simp)),
      ih _ fun m hm => hpre m (by simp [hm])]
    simp

/-- After a tag line, every line continues the last tag's text. -/
theorem foldl_readLine_untagged_cons {more : List Text} (hmore : ∀ l ∈ more, isTagLine l = false)
    (t : Tag) (ts : List Tag) :
    more.foldl readLine (d, t :: ts) = (d, { t with desc := more.foldl glue t.desc } :: ts) := by
  induction more generalizing t with
  | nil => rfl
  | cons l more ih =>
    rw [List.foldl_cons, readLine_untagged_cons d (hmore l (by simp)),
      ih (fun m hm => hmore m (by simp [hm]))]
    rfl

/-- A whole block adds its tag. -/
theorem foldl_readLine_block (b : TagBlock) (hmore : ∀ l ∈ b.more, Stripped l) (ts : List Tag) :
    b.lines.foldl readLine (d, ts) = (d, b.tag :: ts) := by
  rw [TagBlock.lines, List.foldl_cons, readLine_of_tagLine? d b.tagLine?_head,
    foldl_readLine_untagged_cons d b.more_untagged,
    foldl_glue b.more (stripped_strip b.rest) hmore]
  rfl

theorem foldl_readLine_blocks {blocks : List TagBlock}
    (hmore : ∀ b ∈ blocks, ∀ l ∈ b.more, Stripped l) (ts : List Tag) :
    (blocks.map TagBlock.lines).flatten.foldl readLine (d, ts) =
      (d, (blocks.map TagBlock.tag).reverse ++ ts) := by
  induction blocks generalizing ts with
  | nil => rfl
  | cons b blocks ih =>
    rw [List.map_cons, List.flatten_cons, List.foldl_append,
      foldl_readLine_block d b (hmore b (by simp)), ih (fun c hc => hmore c (by simp [hc]))]
    simp

end Reading

theorem stripped_processLine (raw : Text) : Stripped (processLine raw) := by
  unfold processLine
  split
  · exact stripped_strip _
  · exact stripped_strip raw

/-! ### The blocks of a body -/

/-- Lines cut into the lines before the first tag line and the tag blocks after them. -/
def Cut (lines pre : List Text) (blocks : List TagBlock) : Prop :=
  (∀ l ∈ pre, isTagLine l = false) ∧ lines = pre ++ (blocks.map TagBlock.lines).flatten

/-- Every list of lines cuts into its lines before the first tag line and tag blocks. -/
theorem exists_cut (lines : List Text) : ∃ pre blocks, Cut lines pre blocks := by
  induction lines with
  | nil => exact ⟨[], [], by simp [Cut]⟩
  | cons l ls ih =>
    obtain ⟨pre, blocks, hpre, rfl⟩ := ih
    cases hl : isTagLine l
    · -- one more line before the first tag line
      refine ⟨l :: pre, blocks, ?_, rfl⟩
      intro m hm
      rcases List.mem_cons.mp hm with rfl | hm
      · exact hl
      · exact hpre m hm
    · -- a tag line: the lines before the old first tag line continue it
      refine ⟨[], TagBlock.ofTagLine hl pre hpre :: blocks, by simp, ?_⟩
      simp [TagBlock.lines_ofTagLine]

/-- **A comment body is its description lines and its tag blocks.** Cut the processed lines of
a body into the lines before its first tag line and blocks, each a tag line (`@`, a word and
the rest of the line) and the lines up to the next tag line; such a cut always exists. Then
the description is the lines before the first tag line joined by line breaks and stripped, and
there is one tag per block, in order: its title is the word in lowercase, its text the
non-empty ones among the stripped rest of the tag line and the block's other lines, joined by
single spaces. -/
theorem parseBody_eq_blocks (body : Text) :
    (∃ pre blocks, Cut ((splitLines body).map processLine) pre blocks) ∧
    ∀ pre blocks, Cut ((splitLines body).map processLine) pre blocks →
      parseBody body = { desc := strip (join "\n" pre), tags := blocks.map TagBlock.tag } := by
  refine ⟨exists_cut _, ?_⟩
  rintro pre blocks ⟨hpre, hlines⟩
  have hmore : ∀ b ∈ blocks, ∀ l ∈ b.more, Stripped l := by
    intro b hb l hl
    have hmem : l ∈ (splitLines body).map processLine := by
      rw [hlines]
      exact List.mem_append_right _ (List.mem_flatten.mpr ⟨b.lines, List.mem_map_of_mem hb,
        List.mem_cons_of_mem _ hl⟩)
    obtain ⟨raw, -, rfl⟩ := List.mem_map.mp hmem
    exact stripped_processLine raw
  rw [parseBody, hlines, List.foldl_append, foldl_readLine_untagged_nil [] hpre,
    foldl_readLine_blocks _ hmore]
  simp

end Comment

end DocPages
