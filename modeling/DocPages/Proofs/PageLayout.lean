import DocPages.Proofs.IndexOrder
import DocPages.Proofs.SourceWalk
import DocPages.Site.Page
/-!
# The layout of a page

Every page of a site is drawn with the same navigation: the site's pages sorted, one item per
page. This module says what that navigation and the rest of a group's page are, for the index
of any list of files.

The pages are sorted by code point order, as texts compare when each character is taken by its
number; on the page names of an index, which are distinct and made of valid code points, the
sort gives each page exactly once, strictly ascending. Every page name ends in `.html`, so the
label an item shows, the name less its last five code points, is the name before `.html`. The
item of the page shown, and only that one, is marked current.

## What is proved

* `Text.codes_lt_of_le` — on valid texts, code point order is the order of the texts' numbers.
* `pairwise_codes_lt_mergeSort` — the sorted pages of an index ascend strictly.
* `navItem_html` — the item of a page `label.html` links to it and shows `label`.
* `group_page_layout` — the page of a key: its navigation, its items, the one current item,
  and one block per symbol; and the Java libraries page's list.
-/

namespace DocPages

/-! ### Code point order -/

namespace Text

/-- Valid texts compare by the numbers of their code points, shorter first on a common start. -/
theorem codes_lt_of_le {a b : Text} (ha : a.Valid) (hb : b.Valid) (hne : a ≠ b)
    (hle : le a b = true) : a.map Point.code < b.map Point.code :=
  ((le_iff_codes_lt ha hb).mp hle).resolve_left hne

end Text

/-- Distinct valid texts sorted by code point order ascend strictly. -/
theorem pairwise_codes_lt_mergeSort {ks : List Text} (hnd : ks.Nodup) (hv : ∀ q ∈ ks, q.Valid) :
    (ks.mergeSort Text.le).Pairwise fun a b => a.map Point.code < b.map Point.code := by
  have hperm := List.mergeSort_perm ks Text.le
  have hsorted := @pairwise_mergeSort_of_mem _ ks Text.le
    (fun a ha b hb c hc => Text.le_trans_of_valid (hv a ha) (hv b hb) (hv c hc))
    (fun a _ b _ => Text.le_total a b)
  refine (hsorted.and (hperm.nodup_iff.2 hnd)).imp_of_mem fun ha hb h => ?_
  exact Text.codes_lt_of_le (hv _ (hperm.mem_iff.1 ha)) (hv _ (hperm.mem_iff.1 hb)) h.2 h.1

/-! ### Navigation items -/

namespace Text

theorem dropLastN_append {t s : Text} : dropLastN s.length (t ++ s) = t := by
  simp [dropLastN]

/-- A text that ends with `s` is some text followed by `s`. -/
theorem exists_eq_append_of_endsWith {t s : Text} (h : endsWith t s = true) :
    ∃ u, t = u ++ s := by
  rw [endsWith, List.isPrefixOf_iff_prefix] at h
  obtain ⟨r, hr⟩ := h
  refine ⟨r.reverse, ?_⟩
  rw [← List.reverse_reverse t, ← hr, List.reverse_append, List.reverse_reverse]

end Text

/-- The item of a page named `label.html` links to the page and shows `label`, marked current
when it is the page shown. -/
theorem navItem_html (current label : Text) :
    Site.navItem current (label ++ ".html") =
      Text.ofString "<li" ++
        (if label ++ ".html" = current then Text.ofString " class=\"current\"" else []) ++
        "><a href=\"" ++ (label ++ ".html") ++ "\">" ++ label ++ "</a></li>" := by
  have hdrop : Text.dropLastN 5 (label ++ ".html") = label := Text.dropLastN_append
  simp only [Site.navItem, hdrop, beq_iff_eq]

/-! ### Pages -/

/-- The pages of the site of `files`, in the order the navigation lists them. -/
def sitePages (files : List SourceFile) : List Text :=
  (PageIndex.build files).keys.mergeSort Text.le

open Site in
/-- What the page drawn for the key `k` of the index of `files`, with its entry `e`, shows. -/
structure DrawsGroupPage (files : List SourceFile) (k : Text) (e : IndexEntry) : Prop where
  /-- The head, one navigation item per page, the link to the Java libraries page, the group's
  name, the file's overview and one block per symbol of the file, in order. -/
  lines : renderPage (sitePages files) (.group k e.name (files.getD e.file {})) =
    Text.join "\n" (
      [Text.ofString "<!DOCTYPE html>", "<html>", "<head>", "<meta charset=\"utf-8\">",
        Text.ofString "<title>" ++ e.name ++ "</title>",
        "<link rel=\"stylesheet\" href=\"styles.css\">", "<script src=\"scripts.js\"></script>",
        "</head>", "<body>", "<div id=\"index\">", "<ul>"] ++
      (sitePages files).map (navItem k) ++
      [Text.ofString "<li><a href=\"javalibs.html\">Java Libraries</a></li>", "</ul>", "</div>",
        "<div id=\"content\">", Text.ofString "<h1>" ++ e.name ++ "</h1>"] ++
      (if (files.getD e.file {}).overview.isEmpty then []
        else [Text.ofString "<div class=\"overview\">" ++ (files.getD e.file {}).overview ++ "</div>"]) ++
      (files.getD e.file {}).symbols.flatMap symbolLines ++
      ([ "</div>", "</body>", "</html>"] : List Text))
  /-- The navigation lists every page of the index once. -/
  perm : (sitePages files).Perm (PageIndex.build files).keys
  /-- ... in strictly ascending code point order. -/
  ascending : (sitePages files).Pairwise fun a b => a.map Point.code < b.map Point.code
  /-- Each item links to its page and shows the page's name before `.html`, marked current
  exactly when it is `k`. -/
  items : ∀ q ∈ sitePages files, ∃ label, q = label ++ ".html" ∧
    navItem k q = Text.ofString "<li" ++ (if q = k then Text.ofString " class=\"current\"" else []) ++
      "><a href=\"" ++ q ++ "\">" ++ label ++ "</a></li>"
  /-- One item is the item of `k`. -/
  current : (sitePages files).count k = 1
  /-- The block of a symbol has its qualified name as id and anchor, then its description, its
  `param` tags, its `returns`, `return` and `type` tags, each group in tag order, and its rendered
  `see` links as they are. -/
  blocks : ∀ s ∈ (files.getD e.file {}).symbols, symbolLines s =
    [Text.ofString "<div class=\"symbol" ++ (if s.isFunction then Text.ofString " function" else []) ++
        "\" id=\"" ++ s.qualifiedName ++ "\">",
      Text.ofString "<h2><a name=\"" ++ s.qualifiedName ++ "\">" ++ s.qualifiedName ++
        (if s.isFunction then Text.ofString "()" else []) ++ "</a></h2>"] ++
    (if s.doc.desc.isEmpty then []
      else [Text.ofString "<div class=\"description\">" ++ s.doc.desc ++ "</div>"]) ++
    ((s.doc.tags.filter (·.title == Text.ofString "param")).map fun t =>
      Text.ofString "<div class=\"param\">" ++ t.desc ++ "</div>") ++
    ((s.doc.tags.filter fun t => [Text.ofString "returns", "return", "type"].contains t.title).map
      fun t => Text.ofString "<div class=\"" ++ t.title ++ "\">" ++ t.desc ++ "</div>") ++
    s.renderedSeeTags ++ [Text.ofString "</div>"]

open Site in
/-- **The page of a key.** In the site of the index of any files whose page names are valid
texts, the page drawn for the key `k` with its entry `e` (`DrawsGroupPage`):

* lists, between the head and the link to the Java libraries page, one item per page of the
  sorted index, which holds every page once, in strictly ascending code point order;
* links each item to its page and labels it with the page's name before `.html`, marking the
  item of `k`, and no other, as current;
* shows the group's name and, in file order, one block per symbol of the entry's file, with the
  symbol's qualified name as id and anchor, then its `param` tags, then its `returns`, `return`
  and `type` tags, each group in tag order, then its rendered `see` links as they are.

The Java libraries page lists the run's Java links in order, by address and reference. -/
theorem group_page_layout (files : List SourceFile)
    (hv : ∀ q ∈ (PageIndex.build files).keys, q.Valid) {k : Text} {e : IndexEntry}
    (he : (k, e) ∈ (PageIndex.build files).entries) :
    DrawsGroupPage files k e ∧
    ∀ links : List SeeLink, links ≠ [] →
      contentLines (.javaLibraries links) =
        [Text.ofString "<h1>Java Libraries</h1>", "<ul class=\"javalibs\">"] ++
          links.map (fun l => Text.ofString "<li><a href=\"" ++ l.url ++ "\">" ++ l.target ++ "</a></li>") ++
          [Text.ofString "</ul>"] := by
  have hperm : (sitePages files).Perm (PageIndex.build files).keys := List.mergeSort_perm _ _
  have hnodup : (sitePages files).Nodup := hperm.nodup_iff.2 (PageIndex.nodup_keys_build files)
  have hk : k ∈ sitePages files := hperm.mem_iff.2 (List.mem_map_of_mem (f := Prod.fst) he)
  refine ⟨⟨?_, hperm, pairwise_codes_lt_mergeSort (PageIndex.nodup_keys_build files) hv,
    fun q hq => ?_, List.count_eq_one_of_mem hnodup hk, fun s _ => rfl⟩, fun links hl => ?_⟩
  · simp only [renderPage, contentLines, PageView.title, PageView.page, List.append_assoc,
      List.cons_append, List.nil_append]
  · -- every page name ends in `.html`
    obtain ⟨label, rfl⟩ :=
      Text.exists_eq_append_of_endsWith (PageIndex.endsWith_html_of_mem_keys (hperm.mem_iff.1 hq))
    exact ⟨label, rfl, navItem_html k label⟩
  · simp [contentLines, hl]

/-- A file documenting a global function with a parameter and a result, and a file documenting
a member of `Foo`. -/
def layoutFiles : List SourceFile :=
  let f : Symbol :=
    { name := "f", memberof := "global",
      doc := { tags := [{ title := "param", desc := "x" }, { title := "returns", desc := "y" }] } }
  [{ path := "a.js", symbols := [f] }, { path := "b.js", symbols := [{ name := "g", memberof := "Foo" }] }]

theorem group_page_layout_global :
    (∀ q ∈ (PageIndex.build layoutFiles).keys, q.Valid) ∧
      (Text.ofString "global.html", (⟨"global", 0⟩ : IndexEntry)) ∈ (PageIndex.build layoutFiles).entries ∧
      DrawsGroupPage layoutFiles "global.html" ⟨"global", 0⟩ := by
  have hv : ∀ q ∈ (PageIndex.build layoutFiles).keys, q.Valid := by decide +kernel
  have he : (Text.ofString "global.html", (⟨"global", 0⟩ : IndexEntry)) ∈
      (PageIndex.build layoutFiles).entries := by decide +kernel
  exact ⟨hv, he, (group_page_layout layoutFiles hv he).1⟩

end DocPages
