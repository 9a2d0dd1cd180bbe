import DocPages.Page.Index
/-!
# The page index as an ordered table

The page index is built by one write per symbol: the symbol's page gets the entry of the
symbol's group and file. A write to a known page replaces its entry in place; a write to a new
page appends it. This module reads the whole build as one list of writes and proves what that
makes of the index.

## What is proved

* `find?_insert`, `keys_insert` — what one write does to the entries and to the order of pages.
* `ext_find?` — an index with each page once is determined by its pages and their entries.
* `find?_foldl_write`, `keys_foldl_write` — a list of writes leaves every page with its last
  write, and adds the pages not yet there in the order they are first written.
* `foldl_write_eq_update` — writing a list into an index is updating the index by the index
  the list writes into nothing, as a dictionary is updated by another.
* `build_append` — building the index of two lists of files is building the first and updating
  it by the index of the second, whose files sit after the first's.
* `find?_build`, `keys_build_perm`, `endsWith_html_of_mem_keys` — each page shows the last
  write to it; the set of pages does not depend on the order of the files; every page name
  ends in `.html`.

Files are named by their position in the list of files, so the index of a list that follows
`n` other files names its files `n` places on (`PageIndex.shift`).
-/

namespace DocPages

theorem Text.endsWith_append_self (t s : Text) : Text.endsWith (t ++ s) s = true := by
  rw [Text.endsWith, List.reverse_append, List.isPrefixOf_iff_prefix]
  exact List.prefix_append _ _

/-- Every page a group can be documented on is an HTML file. -/
theorem endsWith_pageFor (g path : Text) : Text.endsWith (pageFor g path) ".html" = true := by
  unfold pageFor
  split
  · decide
  · split
    · rename_i r _
      cases r with
      | macroFilters => simp only [PageRule.page]; decide
      | globalMacros => simp only [PageRule.page]; decide
      | json => simp only [PageRule.page]; decide
      | coreExtensions =>
        show Text.endsWith (g ++ (Text.ofString "Extensions" ++ ".html")) ".html" = true
        rw [← List.append_assoc]
        exact Text.endsWith_append_self _ _
      | group => exact Text.endsWith_append_self _ _
    · exact Text.endsWith_append_self _ _

/-- The entry with its file `n` places further on. -/
def IndexEntry.shift (n : Nat) (e : IndexEntry) : IndexEntry :=
  { e with file := e.file + n }

namespace PageIndex

/-! ### One write -/

theorem any_key_iff {idx : PageIndex} {p : Text} :
    idx.entries.any (·.1 == p) = true ↔ p ∈ idx.keys := by
  simp [keys]

theorem find?_eq_none_iff {idx : PageIndex} {q : Text} :
    idx.find? q = none ↔ q ∉ idx.keys := by
  simp only [find?, Option.map_eq_none_iff, List.find?_eq_none, beq_iff_eq, keys, List.mem_map,
    not_exists, not_and]

/-- Writing a known page overwrites its entry in place. -/
theorem insert_of_mem {idx : PageIndex} {p : Text} (h : p ∈ idx.keys) (e : IndexEntry) :
    idx.insert p e = ⟨idx.entries.map fun x => if x.1 == p then (p, e) else x⟩ :=
  if_pos (any_key_iff.2 h)

/-- Writing a new page appends it. -/
theorem insert_of_not_mem {idx : PageIndex} {p : Text} (h : p ∉ idx.keys) (e : IndexEntry) :
    idx.insert p e = ⟨idx.entries ++ [(p, e)]⟩ :=
  if_neg (mt any_key_iff.1 h)

/-- Overwriting keeps the page of every entry. -/
theorem fst_overwrite (x : Text × IndexEntry) (p : Text) (e : IndexEntry) :
    (if x.1 == p then (p, e) else x).1 = x.1 := by
  by_cases hx : x.1 = p <;> simp [hx]

theorem keys_insert (idx : PageIndex) (p : Text) (e : IndexEntry) :
    (idx.insert p e).keys = if p ∈ idx.keys then idx.keys else idx.keys ++ [p] := by
  by_cases hp : p ∈ idx.keys
  · rw [insert_of_mem hp, if_pos hp]
    simp only [keys, List.map_map]
    exact List.map_congr_left fun x _ => fst_overwrite x p e
  · rw [insert_of_not_mem hp, if_neg hp]
    simp [keys]

theorem find?_insert (idx : PageIndex) (p q : Text) (e : IndexEntry) :
    (idx.insert p e).find? q = if p = q then some e else idx.find? q := by
  by_cases hp : p ∈ idx.keys
  · rw [insert_of_mem hp]
    have hkey : ((·.1 == q) ∘ fun x : Text × IndexEntry => if x.1 == p then (p, e) else x) =
        (·.1 == q) := by
      funext x
      simp only [Function.comp_apply, fst_overwrite]
    simp only [find?, List.find?_map, hkey, Option.map_map]
    cases hfind : idx.entries.find? (·.1 == q) with
    | none =>
      have hq : q ∉ idx.keys := find?_eq_none_iff.1 (by simp [find?, hfind])
      have hpq : p ≠ q := fun hpq => hq (hpq ▸ hp)
      simp [hpq]
    | some x =>
      have hx : x.1 = q := by simpa using List.find?_some hfind
      by_cases hpq : p = q
      · simp [hpq, hx]
      · have : x.1 ≠ p := fun h => hpq (h ▸ hx)
        simp [hpq, this]
  · rw [insert_of_not_mem hp]
    simp only [find?, List.find?_append]
    by_cases hpq : p = q
    · subst hpq
      have hnone : idx.entries.find? (·.1 == p) = none := by
        simpa [find?] using find?_eq_none_iff.2 hp
      simp [hnone]
    · cases idx.entries.find? (·.1 == q) <;> simp [hpq]

theorem nodup_keys_insert {idx : PageIndex} (h : idx.keys.Nodup) (p : Text) (e : IndexEntry) :
    (idx.insert p e).keys.Nodup := by
  rw [keys_insert]
  split
  · exact h
  · rename_i hp
    refine List.nodup_append.2 ⟨h, List.nodup_cons.2 ⟨List.not_mem_nil, List.nodup_nil⟩, ?_⟩
    intro a ha b hb hab
    rw [List.mem_singleton] at hb
    exact hp (hb ▸ hab ▸ ha)

/-! ### Pages and entries determine an index -/

theorem find?_cons_self (x : Text × IndexEntry) (rest : List (Text × IndexEntry)) :
    find? ⟨x :: rest⟩ x.1 = some x.2 := by
  simp [find?]

theorem find?_cons_of_ne {x : Text × IndexEntry} {rest : List (Text × IndexEntry)} {q : Text}
    (h : x.1 ≠ q) : find? ⟨x :: rest⟩ q = find? ⟨rest⟩ q := by
  simp [find?, h]

/-- Two indexes with the same pages in the same order, each page once, and the same entry for
every page are the same index. -/
theorem ext_find? {a b : PageIndex} (hnd : a.keys.Nodup) (hk : a.keys = b.keys)
    (hf : ∀ q, a.find? q = b.find? q) : a = b := by
  obtain ⟨la⟩ := a
  obtain ⟨lb⟩ := b
  congr
  induction la generalizing lb with
  | nil => cases lb with
    | nil => rfl
    | cons y lb => simp [keys] at hk
  | cons x la ih => cases lb with
    | nil => simp [keys] at hk
    | cons y lb =>
      simp only [keys, List.map_cons, List.cons.injEq, List.nodup_cons] at hk hnd
      obtain ⟨hxy, hkt⟩ := hk
      have hsnd : x.2 = y.2 := by
        have := hf x.1
        rw [find?_cons_self, hxy, find?_cons_self] at this
        exact Option.some.inj this
      have htail : ∀ q, find? ⟨la⟩ q = find? ⟨lb⟩ q := by
        intro q
        by_cases hq : x.1 = q
        · subst hq
          have hx : x.1 ∉ keys ⟨la⟩ := hnd.1
          have hy : x.1 ∉ keys ⟨lb⟩ := by simpa [keys, hkt] using hnd.1
          rw [find?_eq_none_iff.2 hx, find?_eq_none_iff.2 hy]
        · have := hf q
          rwa [find?_cons_of_ne hq, find?_cons_of_ne (hxy ▸ hq)] at this
      rw [ih hnd.2 lb hkt htail, Prod.ext hxy hsnd]

/-! ### A list of writes -/

/-- Writes one `(page, entry)` pair. -/
def write (idx : PageIndex) (w : Text × IndexEntry) : PageIndex :=
  idx.insert w.1 w.2

/-- The entry that the writes `W` write last to page `q`. -/
def lastWrite (W : List (Text × IndexEntry)) (q : Text) : Option IndexEntry :=
  ((W.filter (·.1 == q)).getLast?).map (·.2)

/-- A page name put at the end of a list of names, unless it is there. -/
def addKey (ks : List Text) (p : Text) : List Text :=
  if p ∈ ks then ks else ks ++ [p]

theorem lastWrite_cons (w : Text × IndexEntry) (W : List (Text × IndexEntry)) (q : Text) :
    lastWrite (w :: W) q = (lastWrite W q).or (if w.1 = q then some w.2 else none) := by
  unfold lastWrite
  by_cases hw : w.1 = q
  · simp only [List.filter_cons, hw, beq_self_eq_true, if_true, List.getLast?_cons]
    cases (W.filter (·.1 == q)).getLast? <;> simp
  · simp [hw]

/-- After a list of writes a page shows the last entry written to it, or what it showed. -/
theorem find?_foldl_write (W : List (Text × IndexEntry)) (d : PageIndex) (q : Text) :
    (W.foldl write d).find? q = (lastWrite W q).or (d.find? q) := by
  induction W generalizing d with
  | nil => simp [lastWrite]
  | cons w W ih =>
    rw [List.foldl_cons, ih, write, find?_insert, lastWrite_cons, Option.or_assoc]
    by_cases hw : w.1 = q <;> simp [hw]

theorem keys_foldl_write (W : List (Text × IndexEntry)) (d : PageIndex) :
    (W.foldl write d).keys = (W.map (·.1)).foldl addKey d.keys := by
  induction W generalizing d with
  | nil => rfl
  | cons w W ih => rw [List.foldl_cons, ih, write, keys_insert]; rfl

theorem nodup_keys_foldl_write (W : List (Text × IndexEntry)) {d : PageIndex}
    (h : d.keys.Nodup) : (W.foldl write d).keys.Nodup := by
  induction W generalizing d with
  | nil => exact h
  | cons w W ih => exact ih (nodup_keys_insert h w.1 w.2)

theorem addKey_of_mem {ks : List Text} {p : Text} (h : p ∈ ks) : addKey ks p = ks := if_pos h

theorem addKey_of_not_mem {ks : List Text} {p : Text} (h : p ∉ ks) : addKey ks p = ks ++ [p] :=
  if_neg h

theorem mem_foldl_addKey {ws ks : List Text} {q : Text} :
    q ∈ ws.foldl addKey ks ↔ q ∈ ks ∨ q ∈ ws := by
  induction ws generalizing ks with
  | nil => simp
  | cons w ws ih =>
    rw [List.foldl_cons, ih, List.mem_cons, addKey]
    split
    · constructor
      · rintro (h | h) <;> simp [h]
      · rintro (h | rfl | h) <;> simp [*]
    · simp [or_assoc]

/-- Adding names one by one to `ks` adds, after `ks`, the names that adding them to nothing
collects, less those already in `ks`. -/
theorem foldl_addKey (ws ks : List Text) :
    ws.foldl addKey ks = ks ++ (ws.foldl addKey []).filter (· ∉ ks) := by
  induction ws generalizing ks with
  | nil => simp
  | cons w ws ih =>
    have hw : addKey [] w = [w] := by simp [addKey]
    rw [List.foldl_cons, List.foldl_cons, ih, hw, ih [w], List.filter_append, List.filter_filter]
    by_cases hwk : w ∈ ks
    · -- `w` is already a key, so dropping it again changes nothing
      rw [addKey_of_mem hwk, List.filter_cons, List.filter_nil]
      simp only [hwk, not_true_eq_false, decide_false]
      congr 1
      apply List.filter_congr
      intro x _
      by_cases hx : x ∈ ks
      · simp [hx]
      · have : x ≠ w := fun h => hx (h ▸ hwk)
        simp [hx, this]
    · rw [addKey_of_not_mem hwk, List.filter_cons, List.filter_nil]
      simp only [hwk, not_false_eq_true, decide_true, List.append_assoc, List.singleton_append]
      congr 2
      apply List.filter_congr
      intro x _
      simp

/-- In an index with each page once, the last write among its entries is its entry. -/
theorem lastWrite_entries {idx : PageIndex} (h : idx.keys.Nodup) (q : Text) :
    lastWrite idx.entries q = idx.find? q := by
  obtain ⟨l⟩ := idx
  induction l with
  | nil => rfl
  | cons x l ih =>
    simp only [keys, List.map_cons, List.nodup_cons] at h
    rw [lastWrite_cons, ih h.2]
    by_cases hx : x.1 = q
    · subst hx
      rw [find?_eq_none_iff.2 h.1, find?_cons_self]
      simp
    · rw [find?_cons_of_ne hx, if_neg hx, Option.or_none]

theorem foldl_addKey_of_nodup {ws ks : List Text} (hws : ws.Nodup) (hnew : ∀ w ∈ ws, w ∉ ks) :
    ws.foldl addKey ks = ks ++ ws := by
  induction ws generalizing ks with
  | nil => simp
  | cons w ws ih =>
    rw [List.nodup_cons] at hws
    have hnew' : ∀ v ∈ ws, v ∉ ks ++ [w] := by
      intro v hv hmem
      rcases List.mem_append.1 hmem with h | h
      · exact hnew v (List.mem_cons_of_mem w hv) h
      · exact hws.1 (List.mem_singleton.1 h ▸ hv)
    rw [List.foldl_cons, addKey_of_not_mem (hnew w List.mem_cons_self), ih hws.2 hnew']
    simp

/-! ### Updating an index by another -/

/-- `a` updated by `b` as a dictionary is updated: `b`'s entries written into `a`, in `b`'s
order. -/
def update (a b : PageIndex) : PageIndex :=
  b.entries.foldl write a

/-- Updating keeps the pages of `a` in place and adds the new pages of `b` in `b`'s order. -/
theorem keys_update (a b : PageIndex) (hb : b.keys.Nodup) :
    (a.update b).keys = a.keys ++ b.keys.filter (· ∉ a.keys) := by
  rw [update, keys_foldl_write, foldl_addKey, ← keys, foldl_addKey_of_nodup hb (by simp),
    List.nil_append]

/-- After updating, a page of `b` shows `b`'s entry and any other page shows `a`'s. -/
theorem find?_update (a b : PageIndex) (hb : b.keys.Nodup) (q : Text) :
    (a.update b).find? q = (b.find? q).or (a.find? q) := by
  rw [update, find?_foldl_write, lastWrite_entries hb]

/-- Writing a list into an index with each page once is updating the index by what the list
writes into the empty index. -/
theorem foldl_write_eq_update (W : List (Text × IndexEntry)) {d : PageIndex}
    (hd : d.keys.Nodup) : W.foldl write d = d.update (W.foldl write {}) := by
  have hW : (W.foldl write {}).keys.Nodup := nodup_keys_foldl_write W List.nodup_nil
  apply ext_find? (nodup_keys_foldl_write W hd)
  · rw [keys_update _ _ hW, keys_foldl_write, keys_foldl_write, foldl_addKey]
    rfl
  · intro q
    rw [find?_update _ _ hW, find?_foldl_write, find?_foldl_write]
    simp [find?]

/-! ### Files named by position -/

/-- The index with every file `n` places further on. -/
def shift (n : Nat) (idx : PageIndex) : PageIndex :=
  ⟨idx.entries.map fun w => (w.1, w.2.shift n)⟩

@[simp] theorem keys_shift (n : Nat) (idx : PageIndex) : (idx.shift n).keys = idx.keys := by
  simp [shift, keys]

theorem find?_shift (n : Nat) (idx : PageIndex) (q : Text) :
    (idx.shift n).find? q = (idx.find? q).map (·.shift n) := by
  simp [shift, find?, List.find?_map, Function.comp_def, Option.map_map]

theorem shift_insert (n : Nat) (idx : PageIndex) (p : Text) (e : IndexEntry) :
    (idx.insert p e).shift n = (idx.shift n).insert p (e.shift n) := by
  by_cases hp : p ∈ idx.keys
  · have hp' : p ∈ (idx.shift n).keys := by rwa [keys_shift]
    rw [insert_of_mem hp, insert_of_mem hp']
    simp only [shift, List.map_map, PageIndex.mk.injEq]
    apply List.map_congr_left
    intro x _
    by_cases hx : x.1 = p <;> simp [hx]
  · have hp' : p ∉ (idx.shift n).keys := by rwa [keys_shift]
    rw [insert_of_not_mem hp, insert_of_not_mem hp']
    simp [shift]

theorem shift_foldl_write (n : Nat) (W : List (Text × IndexEntry)) (d : PageIndex) :
    (W.foldl write d).shift n = (W.map fun w => (w.1, w.2.shift n)).foldl write (d.shift n) := by
  induction W generalizing d with
  | nil => rfl
  | cons w W ih => simp only [List.foldl_cons, List.map_cons, ih, write, shift_insert]

/-- The writes of the file at position `pos`: for each symbol, its page and the entry of its
group. -/
def fileWrites (pos : Nat) (f : SourceFile) : List (Text × IndexEntry) :=
  (groupsOf f.symbols).map fun g => (pageFor g f.path, ⟨g, pos⟩)

/-- The writes of the files, the first at position `pos`, in file and symbol order. -/
def writes : Nat → List SourceFile → List (Text × IndexEntry)
  | _, [] => []
  | pos, f :: rest => fileWrites pos f ++ writes (pos + 1) rest

theorem addFile_eq (idx : PageIndex) (pos : Nat) (f : SourceFile) :
    idx.addFile pos f = (fileWrites pos f).foldl write idx := by
  simp [addFile, fileWrites, List.foldl_map, write]

theorem addFiles_eq (idx : PageIndex) (pos : Nat) (files : List SourceFile) :
    idx.addFiles pos files = (writes pos files).foldl write idx := by
  induction files generalizing idx pos with
  | nil => rfl
  | cons f rest ih => rw [addFiles, ih, addFile_eq, writes, List.foldl_append]

/-- Building the index is one list of writes, file by file and symbol by symbol. -/
theorem build_eq (files : List SourceFile) : build files = (writes 0 files).foldl write {} :=
  addFiles_eq {} 0 files

theorem writes_append (pos : Nat) (F G : List SourceFile) :
    writes pos (F ++ G) = writes pos F ++ writes (pos + F.length) G := by
  induction F generalizing pos with
  | nil => simp [writes]
  | cons f F ih => simp [writes, ih, Nat.add_assoc, Nat.add_comm 1]

theorem fileWrites_shift (pos n : Nat) (f : SourceFile) :
    fileWrites (pos + n) f = (fileWrites pos f).map fun w => (w.1, w.2.shift n) := by
  simp [fileWrites, IndexEntry.shift]

theorem writes_shift (pos n : Nat) (files : List SourceFile) :
    writes (pos + n) files = (writes pos files).map fun w => (w.1, w.2.shift n) := by
  induction files generalizing pos with
  | nil => rfl
  | cons f rest ih =>
    rw [writes, writes, List.map_append, fileWrites_shift, ← ih, Nat.add_right_comm]

theorem nodup_keys_build (files : List SourceFile) : (build files).keys.Nodup := by
  rw [build_eq]
  exact nodup_keys_foldl_write _ List.nodup_nil

/-- Building the index of two lists of files is building the first and updating it by the index
of the second, whose files sit after the first's. -/
theorem build_append (F G : List SourceFile) :
    build (F ++ G) = (build F).update ((build G).shift F.length) := by
  have hG : (writes F.length G).foldl write {} = (build G).shift F.length := by
    rw [build_eq, shift_foldl_write, ← writes_shift, Nat.zero_add]
    rfl
  rw [build_eq, writes_append, List.foldl_append, ← build_eq, Nat.zero_add,
    foldl_write_eq_update _ (nodup_keys_build F), hG]

/-! ### What the index shows -/

theorem map_fst_writes (pos : Nat) (files : List SourceFile) :
    (writes pos files).map (·.1) =
      files.flatMap fun f => (groupsOf f.symbols).map (pageFor · f.path) := by
  induction files generalizing pos with
  | nil => rfl
  | cons f rest ih => simp [writes, fileWrites, ih]

/-- The pages of the index are the pages of the symbols of the files. -/
theorem mem_keys_build {files : List SourceFile} {q : Text} :
    q ∈ (build files).keys ↔ ∃ f ∈ files, ∃ g ∈ groupsOf f.symbols, pageFor g f.path = q := by
  rw [build_eq, keys_foldl_write, mem_foldl_addKey, map_fst_writes]
  simp [keys]

/-- Reordering the files permutes the pages of the index. -/
theorem keys_build_perm {F F' : List SourceFile} (h : F.Perm F') :
    (build F).keys.Perm (build F').keys := by
  rw [List.perm_ext_iff_of_nodup (nodup_keys_build F) (nodup_keys_build F')]
  intro q
  simp only [mem_keys_build]
  exact ⟨fun ⟨f, hf, hg⟩ => ⟨f, h.mem_iff.1 hf, hg⟩, fun ⟨f, hf, hg⟩ => ⟨f, h.mem_iff.2 hf, hg⟩⟩

/-- Each page shows the entry of the last symbol routed to it. -/
theorem find?_build (files : List SourceFile) (q : Text) :
    (build files).find? q = lastWrite (writes 0 files) q := by
  rw [build_eq, find?_foldl_write]
  simp [find?]

/-- Two files route `res` to one page: the page keeps the later file's entry. -/
example : (build [⟨"a.js", [{ name := "x", memberof := "res" }], []⟩,
    ⟨"b.js", [{ name := "y", memberof := "res" }], []⟩]).entries =
      [(Text.ofString "res.html", ⟨"res", 1⟩)] := by
  decide

theorem endsWith_html_of_mem_keys {files : List SourceFile} {q : Text}
    (h : q ∈ (build files).keys) : Text.endsWith q ".html" = true := by
  obtain ⟨f, -, g, -, rfl⟩ := mem_keys_build.1 h
  exact endsWith_pageFor g f.path

theorem build_singleton (f : SourceFile) :
    build [f] = ((groupsOf f.symbols).map fun g => (pageFor g f.path, ⟨g, 0⟩)).foldl write {} := by
  rw [build_eq, writes, writes, List.append_nil, fileWrites]

theorem build_singleton_of_symbols_eq_nil {f : SourceFile} (h : f.symbols = []) : build [f] = {} := by
  rw [build_singleton, h]
  rfl

/-- **The index is an ordered table of last writes.** Building the index of `F ++ G` is updating
the index of `F` by the index of `G`, whose files sit `F.length` places on: the pages of `F`
keep their places, the new pages of `G` follow in `G`'s order, and a page of `G` shows `G`'s
entry. The index of one file is its writes in order: each symbol's page with the entry of the
group a fresh accumulator gives it. So the set of pages does not depend on the order of the
files, each page shows the last write to it, a file without symbols writes nothing, and every
page is an HTML file. -/
theorem build_ordered_last_write :
    (∀ F G : List SourceFile,
      build (F ++ G) = (build F).update ((build G).shift F.length) ∧
      (build (F ++ G)).keys = (build F).keys ++ (build G).keys.filter (· ∉ (build F).keys) ∧
      ∀ q, (build (F ++ G)).find? q =
        (((build G).find? q).map (·.shift F.length)).or ((build F).find? q)) ∧
    (∀ f : SourceFile, build [f] =
      ((groupsOf f.symbols).map fun g => (pageFor g f.path, ⟨g, 0⟩)).foldl write {}) ∧
    (∀ F F' : List SourceFile, F.Perm F' → (build F).keys.Perm (build F').keys) ∧
    (∀ (F : List SourceFile) (q : Text), (build F).find? q = lastWrite (writes 0 F) q) ∧
    (∀ f : SourceFile, f.symbols = [] → build [f] = {}) ∧
    (∀ F : List SourceFile, ∀ q ∈ (build F).keys, Text.endsWith q ".html" = true) := by
  refine ⟨fun F G => ?_, build_singleton, fun _ _ => keys_build_perm, find?_build,
    fun _ => build_singleton_of_symbols_eq_nil, fun _ _ => endsWith_html_of_mem_keys⟩
  have hG : ((build G).shift F.length).keys.Nodup := by
    rw [keys_shift]
    exact nodup_keys_build G
  refine ⟨build_append F G, ?_, fun q => ?_⟩
  · rw [build_append, keys_update _ _ hG, keys_shift]
  · rw [build_append, find?_update _ _ hG, find?_shift]

end PageIndex

end DocPages
