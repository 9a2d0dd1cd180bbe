import Mathlib
import DocPages.Publish
/-!
# The links of a run

Rendering a run resolves the `see` tags of every symbol and produces two things from one pass:
the run's links, in file, symbol and tag order, and in each symbol the HTML of its own links,
replacing what it held. The Java links of the run are its external links, each address once,
the first link with an address standing for all of them.

## What is proved

* `take_drop_sum_flatMap` — in a list built by `flatMap`, the part contributed by the element at
  position `i` starts after the lengths contributed by the elements before it.
* `renderFiles_see_segments` — the run's links are the `see` tags resolved in order, and every
  symbol holds exactly the HTML of its own contiguous segment of them.
* `filter_url_uniqueExternalFrom`, `url_not_mem_of_mem_uniqueExternalFrom` — what the scan keeps
  for one address, and that it never keeps an address it has seen.
* `uniqueExternal_first_per_url` — the Java links are the subsequence of the external links whose
  address no earlier external link has; their addresses are distinct, each address of an external
  link is carried once, by its first link, and collecting them again changes nothing.
-/

namespace DocPages

/-! ### Segments of a flattened list -/

/-- The part that the element at position `i` contributes to a `flatMap` starts after what the
elements before it contribute. -/
theorem take_drop_sum_flatMap {α β : Type} {xs : List α} {i : Nat} {a : α} (hi : xs[i]? = some a)
    (f : α → List β) :
    ((xs.flatMap f).drop ((xs.take i).map fun y => (f y).length).sum).take (f a).length = f a := by
  have hlt : i < xs.length := (List.getElem?_eq_some_iff.mp hi).1
  have hdrop : xs.drop i = a :: xs.drop (i + 1) := by
    rw [List.drop_eq_getElem_cons hlt, (List.getElem?_eq_some_iff.mp hi).2]
  have hsplit : xs.flatMap f = (xs.take i).flatMap f ++ (f a ++ (xs.drop (i + 1)).flatMap f) := by
    conv => lhs; rw [← List.take_append_drop i xs]
    rw [List.flatMap_append, hdrop, List.flatMap_cons]
  have hlen : ((xs.take i).map fun y => (f y).length).sum = ((xs.take i).flatMap f).length := by
    simp [List.length_flatMap]
  rw [hsplit, hlen, List.drop_left, List.take_left]

/-! ### Rendering a run -/

namespace Symbol

/-- How many links a symbol adds to a run: one per tag titled exactly `see`. -/
def seeCount (s : Symbol) : Nat :=
  s.doc.tags.countP (·.title = Text.ofString "see")

/-- A symbol's links resolve its tags titled exactly `see`, in tag order. -/
theorem seeLinks_eq_filter (st : LinkSettings) (s : Symbol) :
    s.seeLinks st = (s.doc.tags.filter (·.title = Text.ofString "see")).map fun t =>
      SeeLink.resolve st t.desc s.memberof := by
  simp only [seeLinks, DocComment.tagsTitled, Bool.beq_eq_decide_eq]

theorem length_seeLinks (st : LinkSettings) (s : Symbol) : (s.seeLinks st).length = s.seeCount := by
  rw [seeLinks_eq_filter, List.length_map, seeCount, List.countP_eq_length_filter]

end Symbol

theorem symbols_renderFiles (st : LinkSettings) (files : List SourceFile) :
    (renderFiles st files).flatMap (·.symbols) =
      (files.flatMap (·.symbols)).map (Symbol.renderSeeTags st) := by
  simp [renderFiles, SourceFile.renderSeeTags, List.flatMap_map, List.map_flatMap]

/-- **Each symbol renders its own segment of the run's links.** The links of a run are the tags
titled exactly `see` of every file's symbols, each resolved against its symbol's owner, in file,
symbol and tag order. Rendering keeps every file's path, overview and number of symbols; the
symbol at position `i` of the run keeps all it had except its rendered HTML, which becomes the
HTML of the run's links from position `o` on, one per `see` tag of the symbol, where `o` counts
the `see` tags of the symbols before it. So the rendered HTML of all symbols, read in order, is
the run's links rendered. -/
theorem renderFiles_see_segments (st : LinkSettings) (files : List SourceFile) :
    filesLinks st files =
      files.flatMap (fun f => f.symbols.flatMap fun s =>
        (s.doc.tags.filter (·.title = Text.ofString "see")).map fun t =>
          SeeLink.resolve st t.desc s.memberof) ∧
    (renderFiles st files).map (fun f => (f.path, f.overview, f.symbols.length)) =
      files.map (fun f => (f.path, f.overview, f.symbols.length)) ∧
    (∀ (i : Nat) (s : Symbol), (files.flatMap (·.symbols))[i]? = some s →
      ((renderFiles st files).flatMap (·.symbols))[i]? = some { s with
        renderedSeeTags := (((filesLinks st files).drop
          (((files.flatMap (·.symbols)).take i).map Symbol.seeCount).sum).take s.seeCount).map
            SeeLink.render }) ∧
    ((renderFiles st files).flatMap (·.symbols)).flatMap (·.renderedSeeTags) =
      (filesLinks st files).map SeeLink.render := by
  refine ⟨?_, ?_, ?_, ?_⟩
  · rw [filesLinks, List.flatMap_assoc, funext (Symbol.seeLinks_eq_filter st)]
  · simp [renderFiles, SourceFile.renderSeeTags, Function.comp_def]
  · intro i s hs
    have hseg := take_drop_sum_flatMap hs (Symbol.seeLinks st)
    simp only [Symbol.length_seeLinks] at hseg
    rw [symbols_renderFiles, List.getElem?_map, hs, Option.map_some, filesLinks, hseg]
    rfl
  · rw [symbols_renderFiles, List.flatMap_map, filesLinks, List.map_flatMap]
    rfl

/-! ### Java links -/

section JavaLinks

variable {seen : List Text} {l : SeeLink} {rest : List SeeLink}

theorem uniqueExternalFrom_cons_of_new (h : l.external = true ∧ l.url ∉ seen) :
    uniqueExternalFrom seen (l :: rest) = l :: uniqueExternalFrom (l.url :: seen) rest := by
  simp [uniqueExternalFrom, h]

theorem uniqueExternalFrom_cons_of_not_new (h : ¬(l.external = true ∧ l.url ∉ seen)) :
    uniqueExternalFrom seen (l :: rest) = uniqueExternalFrom seen rest := by
  rw [uniqueExternalFrom, if_neg (by simpa using h)]

theorem uniqueExternalFrom_sublist (seen : List Text) (links : List SeeLink) :
    (uniqueExternalFrom seen links).Sublist links := by
  induction links generalizing seen with
  | nil => exact List.Sublist.slnil
  | cons l rest ih =>
    by_cases h : l.external = true ∧ l.url ∉ seen
    · rw [uniqueExternalFrom_cons_of_new h]
      exact (ih _).cons_cons l
    · rw [uniqueExternalFrom_cons_of_not_new h]
      exact (ih seen).cons l

theorem external_of_mem_uniqueExternalFrom {links : List SeeLink}
    (hl : l ∈ uniqueExternalFrom seen links) : l.external = true := by
  induction links generalizing seen with
  | nil => cases hl
  | cons m rest ih =>
    by_cases h : m.external = true ∧ m.url ∉ seen
    · rw [uniqueExternalFrom_cons_of_new h, List.mem_cons] at hl
      rcases hl with rfl | hl
      · exact h.1
      · exact ih hl
    · rw [uniqueExternalFrom_cons_of_not_new h] at hl
      exact ih hl

/-- The scan never keeps a link whose address it has already seen. -/
theorem url_not_mem_of_mem_uniqueExternalFrom {links : List SeeLink}
    (hl : l ∈ uniqueExternalFrom seen links) : l.url ∉ seen := by
  induction links generalizing seen with
  | nil => cases hl
  | cons m rest ih =>
    by_cases h : m.external = true ∧ m.url ∉ seen
    · rw [uniqueExternalFrom_cons_of_new h, List.mem_cons] at hl
      rcases hl with rfl | hl
      · exact h.2
      · exact fun hs => ih hl (List.mem_cons_of_mem _ hs)
    · rw [uniqueExternalFrom_cons_of_not_new h] at hl
      exact ih hl

/-- For one address the scan keeps nothing if it has seen the address, else the first external
link with that address, if there is one. -/
theorem filter_url_uniqueExternalFrom (seen : List Text) (links : List SeeLink) (u : Text) :
    (uniqueExternalFrom seen links).filter (·.url = u) =
      if u ∈ seen then [] else (links.find? fun l => l.external ∧ l.url = u).toList := by
  induction links generalizing seen with
  | nil => simp [uniqueExternalFrom]
  | cons l rest ih =>
    by_cases h : l.external = true ∧ l.url ∉ seen
    · rw [uniqueExternalFrom_cons_of_new h, List.filter_cons, ih]
      by_cases hu : l.url = u
      · -- `l` is the first external link with address `u`, and `u` was new
        subst hu
        simp [h.1, h.2]
      · simp [hu, Ne.symm hu]
    · rw [uniqueExternalFrom_cons_of_not_new h, ih]
      by_cases hs : u ∈ seen
      · simp [hs]
      · -- a link passed over is internal, or has an address seen before, so it is not `u`'s
        have hl : ¬(l.external = true ∧ l.url = u) := fun ⟨he, hu⟩ => h ⟨he, hu ▸ hs⟩
        simp [hs, hl]

/-- Links that are all external, with distinct addresses none of which has been seen, are kept
as they are. -/
theorem uniqueExternalFrom_of_new {links : List SeeLink} (hext : ∀ l ∈ links, l.external = true)
    (hnd : (links.map (·.url)).Nodup) (hnew : ∀ l ∈ links, l.url ∉ seen) :
    uniqueExternalFrom seen links = links := by
  induction links generalizing seen with
  | nil => rfl
  | cons l rest ih =>
    simp only [List.map_cons, List.nodup_cons, List.mem_map] at hnd
    rw [uniqueExternalFrom_cons_of_new ⟨hext l List.mem_cons_self, hnew l List.mem_cons_self⟩]
    refine congrArg (l :: ·) (ih (fun m hm => hext m (List.mem_cons_of_mem _ hm)) hnd.2 ?_)
    intro m hm hs
    rcases List.mem_cons.mp hs with hu | hs
    · exact hnd.1 ⟨m, hm, hu⟩
    · exact hnew m (List.mem_cons_of_mem _ hm) hs

theorem nodup_urls_uniqueExternalFrom (seen : List Text) (links : List SeeLink) :
    ((uniqueExternalFrom seen links).map (·.url)).Nodup := by
  induction links generalizing seen with
  | nil => exact List.nodup_nil
  | cons l rest ih =>
    by_cases h : l.external = true ∧ l.url ∉ seen
    · rw [uniqueExternalFrom_cons_of_new h, List.map_cons, List.nodup_cons]
      refine ⟨?_, ih _⟩
      rintro hm
      obtain ⟨m, hm, hu⟩ := List.mem_map.mp hm
      exact url_not_mem_of_mem_uniqueExternalFrom hm (hu ▸ List.mem_cons_self)
    · rw [uniqueExternalFrom_cons_of_not_new h]
      exact ih seen

/-- Filtering a list indexed from one is filtering it indexed from zero, the test reading the
index one higher. -/
theorem map_fst_filter_zipIdx_one {α : Type} (xs : List α) (P : α × Nat → Bool) :
    ((xs.zipIdx 1).filter P).map Prod.fst =
      (xs.zipIdx.filter fun p => P (p.1, p.2 + 1)).map Prod.fst := by
  rw [List.zipIdx_succ, List.filter_map, List.map_map]
  rfl

/-- The scan keeps a link when it is external and its address is neither seen nor on an earlier
external link. -/
theorem uniqueExternalFrom_eq_filter (seen : List Text) (links : List SeeLink) :
    uniqueExternalFrom seen links =
      (links.zipIdx.filter fun p => p.1.external ∧
        p.1.url ∉ seen ++ ((links.take p.2).filter (·.external)).map (·.url)).map Prod.fst := by
  induction links generalizing seen with
  | nil => rfl
  | cons l rest ih =>
    have hmem : ∀ seen' : List Text, (∀ u, u ∈ seen' ↔ u ∈ seen ∨ (l.external = true ∧ u = l.url)) →
        ∀ (i : Nat) (u : Text), u ∈ seen ++ (((l :: rest).take (i + 1)).filter (·.external)).map (·.url) ↔
          u ∈ seen' ++ ((rest.take i).filter (·.external)).map (·.url) := by
      intro seen' hs i u
      rw [List.take_succ_cons, List.filter_cons]
      by_cases he : l.external = true
      · simp [he, hs, or_assoc, or_left_comm]
      · simp [he, hs]
    rw [List.zipIdx_cons, Nat.zero_add, List.filter_cons]
    by_cases h : l.external = true ∧ l.url ∉ seen
    · have hs : ∀ u, u ∈ l.url :: seen ↔ u ∈ seen ∨ (l.external = true ∧ u = l.url) := by
        simp [h.1, or_comm]
      rw [uniqueExternalFrom_cons_of_new h, ih, if_pos (by simpa using h), List.map_cons,
        map_fst_filter_zipIdx_one]
      refine congrArg (l :: ·) (congrArg _ (List.filter_congr fun p _ => ?_))
      simp only [hmem _ hs]
    · -- an external `l` passed over had its address seen already
      have hs : ∀ u, u ∈ seen ↔ u ∈ seen ∨ (l.external = true ∧ u = l.url) := by
        intro u
        constructor
        · exact .inl
        · rintro (hu | ⟨he, rfl⟩)
          · exact hu
          · exact Decidable.of_not_not fun hn => h ⟨he, hn⟩
      rw [uniqueExternalFrom_cons_of_not_new h, ih, if_neg (by simpa using h),
        map_fst_filter_zipIdx_one]
      refine congrArg _ (List.filter_congr fun p _ => ?_)
      simp only [hmem _ hs]

/-- **The Java links are the first external link of each address.** Collecting the external
links of a list, each address once, keeps exactly the external links whose address no earlier
external link has, in their order. Their addresses are distinct; for every address, the links
kept with it are the first external link with it, if any, and nothing else; no internal link is
kept; and collecting again changes nothing. -/
theorem uniqueExternal_first_per_url (links : List SeeLink) :
    uniqueExternal links =
      (links.zipIdx.filter fun p => p.1.external ∧
        p.1.url ∉ ((links.take p.2).filter (·.external)).map (·.url)).map Prod.fst ∧
    ((uniqueExternal links).map (·.url)).Nodup ∧
    (∀ u, (uniqueExternal links).filter (·.url = u) =
      (links.find? fun l => l.external ∧ l.url = u).toList) ∧
    (uniqueExternal links).Sublist links ∧
    (∀ l ∈ uniqueExternal links, l.external) ∧
    uniqueExternal (uniqueExternal links) = uniqueExternal links := by
  have hext : ∀ l ∈ uniqueExternal links, l.external := fun _ hl =>
    external_of_mem_uniqueExternalFrom hl
  have hnd := nodup_urls_uniqueExternalFrom [] links
  refine ⟨?_, hnd, fun u => ?_, uniqueExternalFrom_sublist [] links, hext, ?_⟩
  · simpa [uniqueExternal] using uniqueExternalFrom_eq_filter [] links
  · simpa [uniqueExternal] using filter_url_uniqueExternalFrom [] links u
  · exact uniqueExternalFrom_of_new hext hnd (fun _ _ hs => by cases hs)

end JavaLinks

end DocPages
