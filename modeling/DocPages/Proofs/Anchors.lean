import Mathlib
import DocPages.Publish
import DocPages.Proofs.Separators
import DocPages.Proofs.IndexOrder
/-!
# Where references land

A symbol is documented on the page of its file's group and carries its qualified name as its
anchor there. A reference reaches it when the reference rules compute that same page and
anchor. The rules and the router compute the page separately: the rules from the owner as
written, the router from the owner's group, its first two dot-separated segments. This module
proves where the two meet and where they part.

## What is proved

* `groupNameFor_prefix_before_second_dot` — an owner with at most one dot is its own group, any
  other owner is grouped by its prefix before its second dot; so a group is a prefix of its
  owner with at most one dot, is empty only for the empty owner, and is its own group.
* `relative_link_url` — a `#member` reference of a symbol with an owner links to the owner's
  page named by the whole owner; that is the page the symbol is documented on exactly when the
  owner has at most two segments. `relative_link_misses_group_page` is an owner with three.
* `owner_member_link` — for an owner and a name without dots, the qualified name links to the
  symbol's page and anchor, except that on the `global` page the anchor is the name alone
  (`global_member_link_misses_anchor`); in a core file `Owner.prototype.name` links to the
  owner's extensions page and the qualified name as anchor.

Both statements are about every file of a publish run, each symbol paired with the group the
accumulator gives it, and the page that group and the file's path name: the page the index
holds for the symbol.
-/

namespace DocPages

/-! ### Groups -/

/-- An owner of at most two segments is its own group; a longer owner is cut to its first two
segments, which are shorter. -/
theorem groupNameFor_eq_self_iff (M : Text) :
    groupNameFor M = M ↔ (Text.splitOn '.' M).length ≤ 2 := by
  unfold groupNameFor
  split
  · rename_i a b c rest h
    have hdot : (Text.ofString ".").length = 1 := rfl
    have hlen : (a ++ Text.ofString "." ++ b).length < M.length := by
      have hM := Text.join_splitOn '.' M
      rw [h, Text.join, List.intercalate_cons_cons, List.intercalate_cons_cons] at hM
      rw [← hM]
      simp only [List.length_append, hdot, List.length_cons, List.length_nil]
      omega
    rw [h]
    simp only [List.length_cons]
    constructor
    · intro he
      rw [he] at hlen
      exact absurd hlen (Nat.lt_irrefl _)
    · intro hle
      omega
  · rename_i hnot
    simp only [true_iff]
    rcases hs : Text.splitOn '.' M with _ | ⟨a, _ | ⟨b, _ | ⟨c, rest⟩⟩⟩
    · simp
    · simp
    · simp
    · exact absurd hs (hnot a b c rest)

/-- An owner without a dot is its own group. -/
theorem groupNameFor_of_not_mem {M : Text} (h : Point.char '.' ∉ M) : groupNameFor M = M := by
  rw [groupNameFor_eq_self_iff, Text.splitOn_of_not_mem h, List.length_singleton]
  omega

theorem groupNameFor_of_count_le {M : Text} (h : List.count (Point.char '.') M ≤ 1) :
    groupNameFor M = M := by
  rw [groupNameFor_eq_self_iff, Text.length_splitOn]
  omega

/-- An owner of two dots or more is its group, a dot and the rest, and the group holds one
dot: it ends just before the owner's second dot. -/
theorem groupNameFor_append_dot {M : Text} (h : 2 ≤ List.count (Point.char '.') M) :
    ∃ rest, M = groupNameFor M ++ Point.char '.' :: rest ∧
      List.count (Point.char '.') (groupNameFor M) = 1 := by
  have hlen := Text.length_splitOn '.' M
  rcases hs : Text.splitOn '.' M with _ | ⟨a, _ | ⟨b, _ | ⟨c, segs⟩⟩⟩
  all_goals rw [hs] at hlen
  · simp at hlen
  · simp at hlen
    omega
  · simp at hlen
    omega
  · have hab : a ∈ Text.splitOn '.' M ∧ b ∈ Text.splitOn '.' M := by simp [hs]
    have ha := Text.not_mem_of_mem_splitOn hab.1
    have hb := Text.not_mem_of_mem_splitOn hab.2
    have hg : groupNameFor M = a ++ Point.char '.' :: b := by
      rw [groupNameFor, hs]
      show a ++ Text.ofString "." ++ b = _
      rw [List.append_assoc]
      rfl
    refine ⟨Text.join [Point.char '.'] (c :: segs), ?_, ?_⟩
    · have hM := Text.join_splitOn '.' M
      rw [hs, Text.join, List.intercalate_cons_cons, List.intercalate_cons_cons] at hM
      rw [hg, Text.join]
      simpa using hM.symm
    · rw [hg, List.count_append, List.count_cons_self, List.count_eq_zero_of_not_mem ha,
        List.count_eq_zero_of_not_mem hb]

/-- Every owner's group is the owner itself, when the owner has at most one dot, or the
owner's prefix before its second dot. -/
theorem groupNameFor_cases (M : Text) :
    (List.count (Point.char '.') M ≤ 1 ∧ groupNameFor M = M) ∨
    ∃ rest, M = groupNameFor M ++ Point.char '.' :: rest ∧
      List.count (Point.char '.') (groupNameFor M) = 1 := by
  rcases Nat.lt_or_ge (List.count (Point.char '.') M) 2 with h | h
  · exact .inl ⟨by omega, groupNameFor_of_count_le (by omega)⟩
  · exact .inr (groupNameFor_append_dot h)

theorem groupNameFor_prefix (M : Text) : groupNameFor M <+: M := by
  rcases groupNameFor_cases M with ⟨-, hg⟩ | ⟨rest, hM, -⟩
  · simp only [hg, List.prefix_refl]
  · exact ⟨Point.char '.' :: rest, hM.symm⟩

theorem count_dot_groupNameFor_le (M : Text) :
    List.count (Point.char '.') (groupNameFor M) ≤ 1 := by
  rcases groupNameFor_cases M with ⟨hc, hg⟩ | ⟨-, -, hc⟩
  · rw [hg]
    exact hc
  · exact hc.le

theorem groupNameFor_ne_nil {M : Text} (h : M ≠ []) : groupNameFor M ≠ [] := by
  rcases groupNameFor_cases M with ⟨-, hg⟩ | ⟨-, -, hc⟩
  · rw [hg]
    exact h
  · intro hnil
    rw [hnil, List.count_nil] at hc
    exact absurd hc Nat.zero_ne_one

/-- **Groups are two levels deep.** An owner with at most one dot is its own group; any other
owner is grouped by its prefix before its second dot. So the group is a prefix of the owner with
at most one dot, it is empty only for the empty owner, and a group is its own group. -/
theorem groupNameFor_prefix_before_second_dot (M : Text) :
    (List.count (Point.char '.') M ≤ 1 → groupNameFor M = M) ∧
    (2 ≤ List.count (Point.char '.') M →
      ∃ rest, M = groupNameFor M ++ Point.char '.' :: rest ∧
        List.count (Point.char '.') (groupNameFor M) = 1) ∧
    groupNameFor M <+: M ∧ List.count (Point.char '.') (groupNameFor M) ≤ 1 ∧
    (M ≠ [] → groupNameFor M ≠ []) ∧
    groupNameFor (groupNameFor M) = groupNameFor M :=
  ⟨groupNameFor_of_count_le, groupNameFor_append_dot, groupNameFor_prefix M,
    count_dot_groupNameFor_le M, groupNameFor_ne_nil,
    groupNameFor_of_count_le (count_dot_groupNameFor_le M)⟩

example : groupNameFor "a..b.c" = Text.ofString "a." := by decide

/-- A symbol with an owner is grouped by its own owner, whatever came before it. -/
theorem Accumulator.advance_name_of_ne_nil (acc : Accumulator) {s : Symbol}
    (h : s.memberof ≠ []) : (acc.advance s).name = groupNameFor s.memberof := by
  have he : s.memberof.isEmpty = false := List.isEmpty_eq_false_iff.2 h
  simp [advance, he]

/-- In a run of the accumulator, a symbol with an owner gets its owner's group. -/
theorem group_of_mem_zip_steps {acc : Accumulator} {syms : List Symbol} {s : Symbol} {g : Text}
    (hsg : (s, g) ∈ syms.zip ((acc.steps syms).map (·.name))) (h : s.memberof ≠ []) :
    g = groupNameFor s.memberof := by
  induction syms generalizing acc with
  | nil => cases hsg
  | cons t syms ih =>
    rw [Accumulator.steps, List.map_cons, List.zip_cons_cons, List.mem_cons] at hsg
    rcases hsg with hst | hsg
    · obtain ⟨rfl, rfl⟩ := Prod.mk.inj hst
      exact acc.advance_name_of_ne_nil h
    · exact ih hsg

theorem group_of_mem_zip_groupsOf {syms : List Symbol} {s : Symbol} {g : Text}
    (hsg : (s, g) ∈ syms.zip (groupsOf syms)) (h : s.memberof ≠ []) :
    g = groupNameFor s.memberof :=
  group_of_mem_zip_steps hsg h

/-! ### Pages -/

/-- Outside the core and the jala `HopObject.js`, a group has a page of its own name. -/
theorem pageFor_of_not_inCore {g path : Text} (hj : isJalaHopObject path = false)
    (hc : inCore path = false) : pageFor g path = g ++ ".html" := by
  simp [pageFor, hj, PageRule.order, PageRule.applies, hc, PageRule.page]

/-- A core group that is not a macro, a filter or the JSON file has an extensions page. -/
theorem pageFor_of_inCore {g path : Text} (hj : isJalaHopObject path = false)
    (hc : inCore path = true) (hjson : Text.contains path "JSON.js" = false)
    (hf : Text.contains g "_filter" = false) (hm : Text.contains g "_macro" = false) :
    pageFor g path = g ++ "Extensions.html" := by
  simp [pageFor, hj, PageRule.order, PageRule.applies, hc, hjson, hf, hm, PageRule.page]

/-- The page a symbol is routed to is a page of the index of the run. -/
theorem pageFor_mem_keys {st : LinkSettings} {files : List SourceFile} {f : SourceFile}
    (hf : f ∈ (publishPass st files).files) {s : Symbol} {g : Text}
    (hsg : (s, g) ∈ f.symbols.zip (groupsOf f.symbols)) :
    pageFor g f.path ∈ (publishPass st files).index.keys :=
  PageIndex.mem_keys_build.2 ⟨f, hf, g, (List.of_mem_zip hsg).2, rfl⟩

/-! ### Reference shapes -/

namespace Text

theorem ofString_hash : Text.ofString "#" = [Point.char '#'] := rfl

theorem ofString_html_hash : Text.ofString ".html#" = Text.ofString ".html" ++ "#" := rfl

theorem ofString_extensions_hash :
    Text.ofString "Extensions.html#" = Text.ofString "Extensions.html" ++ "#" := rfl

theorem splitOn_dotted {M n : Text} (hM : Point.char '.' ∉ M) (hn : Point.char '.' ∉ n) :
    splitOn '.' (M ++ "." ++ n) = [M, n] := by
  have e : M ++ Text.ofString "." ++ n = M ++ Point.char '.' :: n := by
    rw [List.append_assoc]
    rfl
  rw [e, splitOn_append_cons hM, splitOn_of_not_mem hn]

theorem splitOn_prototype {M n : Text} (hM : Point.char '.' ∉ M) (hn : Point.char '.' ∉ n) :
    splitOn '.' (M ++ ".prototype." ++ n) = [M, "prototype", n] := by
  have hp : Point.char '.' ∉ Text.ofString "prototype" := by decide
  have e : M ++ Text.ofString ".prototype." ++ n =
      M ++ Point.char '.' :: (Text.ofString "prototype" ++ Point.char '.' :: n) := by
    rw [List.append_assoc]
    rfl
  rw [e, splitOn_append_cons hM, splitOn_append_cons hp, splitOn_of_not_mem hn]

/-- A text that is not empty starts a longer text with the same first code point. -/
theorem startsWith_append_of_ne_nil {M : Text} (hM : M ≠ []) (x : Text) (q : Point) :
    startsWith (M ++ x) [q] = startsWith M [q] := by
  cases M with
  | nil => exact absurd rfl hM
  | cons c M => rfl

end Text

namespace Rule

variable {st : LinkSettings}

/-- With no namespace starting with `#`, a reference starting with `#` is relative. -/
theorem firstMatch_of_startsWith_hash (hns : ∀ ns ∈ st.namespaces, Text.startsWith ns "#" = false)
    {item : Text} (h : Text.startsWith item "#" = true) : firstMatch st item = some relative := by
  obtain ⟨rest, rfl⟩ : ∃ rest, item = Point.char '#' :: rest := by
    cases item with
    | nil => cases h
    | cons c rest =>
      have hc : Point.char '#' = c := by
        simpa [Text.ofString_hash, Text.startsWith, List.isPrefixOf] using h
      exact ⟨rest, hc ▸ rfl⟩
  have h1 : inNamespace.accepts st (Point.char '#' :: rest) = false := by
    obtain ⟨u, us, hsplit⟩ := Text.splitOnAux_head (Point.char '.') [Point.char '#'] rest
    have hhead : Text.splitOn '.' (Point.char '#' :: rest) = (Point.char '#' :: u) :: us := by
      rw [Text.splitOn, Text.splitOnAux, if_neg (by decide), hsplit]
      rfl
    rw [accepts, hhead, List.headD_cons]
    apply Bool.eq_false_iff.2
    intro hmem
    have := hns _ (by simpa using hmem)
    simp [Text.ofString_hash, Text.startsWith, List.isPrefixOf] at this
  have h2 : relative.accepts st (Point.char '#' :: rest) = true := h
  simp only [firstMatch, order, List.find?_cons, h1, h2]

section Member

variable {M n : Text} (hM : M ≠ []) (hdot : Point.char '.' ∉ M) (hns : M ∉ st.namespaces)
  (hhash : Text.startsWith M "#" = false) (hn : Point.char '.' ∉ n)
include hM hdot hns hhash hn

omit hdot hn in
/-- A reference that starts with an owner that is no namespace and not `#...` is neither a
namespace reference nor a relative one. -/
theorem accepts_of_owner_prefix {rest : Text} {segs : List Text}
    (hsplit : Text.splitOn '.' (M ++ rest) = M :: segs) :
    inNamespace.accepts st (M ++ rest) = false ∧ relative.accepts st (M ++ rest) = false := by
  refine ⟨?_, ?_⟩
  · rw [accepts, hsplit, List.headD_cons]
    simpa using hns
  · rw [accepts, Text.ofString_hash, Text.startsWith_append_of_ne_nil hM, ← Text.ofString_hash]
    exact hhash

omit hM hdot hns hhash hn in
/-- A reference with a dot is no page reference. -/
theorem page_accepts_of_mem {item : Text} (h : Point.char '.' ∈ item) :
    page.accepts st item = false := by
  simp only [accepts, Bool.not_eq_false', List.any_eq_true, beq_iff_eq]
  exact ⟨_, h, rfl⟩

/-- `Owner.name`, for an owner that is no namespace and neither is nor holds anything
special, is a member reference. -/
theorem firstMatch_member : firstMatch st (M ++ "." ++ n) = some member := by
  have hsplit := Text.splitOn_dotted hdot hn
  obtain ⟨h1, h2⟩ := accepts_of_owner_prefix hM hns hhash
    (by rw [← List.append_assoc, hsplit] : Text.splitOn '.' (M ++ ("." ++ n)) = M :: [n])
  rw [← List.append_assoc] at h1 h2
  have h3 : page.accepts st (M ++ "." ++ n) = false :=
    page_accepts_of_mem (List.mem_append_left n (List.mem_append_right M (by decide)))
  have h4 : member.accepts st (M ++ "." ++ n) = true := by
    rw [accepts, hsplit]
    rfl
  simp only [firstMatch, order, List.find?_cons, h1, h2, h3, h4]

/-- `Owner.prototype.name` is a prototype reference. -/
theorem firstMatch_prototype : firstMatch st (M ++ ".prototype." ++ n) = some prototype := by
  have hsplit := Text.splitOn_prototype hdot hn
  obtain ⟨h1, h2⟩ := accepts_of_owner_prefix hM hns hhash
    (by rw [← List.append_assoc, hsplit] :
      Text.splitOn '.' (M ++ (".prototype." ++ n)) = M :: ["prototype", n])
  rw [← List.append_assoc] at h1 h2
  have h3 : page.accepts st (M ++ ".prototype." ++ n) = false :=
    page_accepts_of_mem (List.mem_append_left n (List.mem_append_right M (by decide)))
  have h4 : member.accepts st (M ++ ".prototype." ++ n) = false := by
    rw [accepts, hsplit]
    rfl
  have h5 : prototype.accepts st (M ++ ".prototype." ++ n) = true := by
    rw [accepts, show prototypeSeparator = Point.char '.' :: Text.ofString "prototype." from rfl,
      show Text.ofString ".prototype." = Point.char '.' :: Text.ofString "prototype." from rfl,
      Text.count_append_sep hdot hn]
    rfl
  simp only [firstMatch, order, List.find?_cons, h1, h2, h3, h4, h5]

end Member

end Rule

/-! ### Resolved links -/

namespace SeeLink

theorem target_resolve (st : LinkSettings) (item o : Text) : (resolve st item o).target = item := by
  unfold resolve
  split <;> rfl

theorem resolve_of_firstMatch {st : LinkSettings} {item : Text} {r : Rule} (o : Text)
    (h : Rule.firstMatch st item = some r) :
    resolve st item o =
      { target := item, url := r.url st item o, text := r.label item o, rule := some r,
        external := r.external } := by
  simp [resolve, h]

end SeeLink

/-! ### Relative references -/

/-- **Relative references land on the owner's page by its whole name.** In a publish run whose
namespaces do not start with `#`, a `#member` reference of a symbol with owner `M` in a file
outside the core and the jala `HopObject.js` links to `M.html`, with the member qualified by `M`
as anchor and text. The symbol is documented on the page of its group, which the index holds;
the link lands there exactly when `M` has at most two dot-separated segments. -/
theorem relative_link_url (st : LinkSettings)
    (hns : ∀ ns ∈ st.namespaces, Text.startsWith ns "#" = false) (files : List SourceFile)
    {f : SourceFile} (hf : f ∈ (publishPass st files).files) {s : Symbol} {g : Text}
    (hsg : (s, g) ∈ f.symbols.zip (groupsOf f.symbols)) (hM : s.memberof ≠ [])
    (hcore : inCore f.path = false) (hjala : isJalaHopObject f.path = false) {l : SeeLink}
    (hl : l ∈ s.seeLinks st) (ht : Text.startsWith l.target "#" = true) :
    pageFor g f.path ∈ (publishPass st files).index.keys ∧
    l.url = s.memberof ++ ".html#" ++ l.text ∧
    (l.url = pageFor g f.path ++ "#" ++ l.text ↔ (Text.splitOn '.' s.memberof).length ≤ 2) := by
  obtain ⟨t, -, rfl⟩ := List.mem_map.1 hl
  rw [SeeLink.target_resolve] at ht
  have he : s.memberof.isEmpty = false := List.isEmpty_eq_false_iff.2 hM
  have hurl : (SeeLink.resolve st t.desc s.memberof).url =
      s.memberof ++ ".html#" ++ (SeeLink.resolve st t.desc s.memberof).text := by
    rw [SeeLink.resolve_of_firstMatch _ (Rule.firstMatch_of_startsWith_hash hns ht)]
    simp [Rule.url, Rule.label, he]
  have hpage : pageFor g f.path = groupNameFor s.memberof ++ ".html" := by
    rw [group_of_mem_zip_groupsOf hsg hM, pageFor_of_not_inCore hjala hcore]
  refine ⟨pageFor_mem_keys hf hsg, hurl, ?_⟩
  rw [hurl, hpage, ← groupNameFor_eq_self_iff, Text.ofString_html_hash]
  simp only [List.append_assoc, List.append_left_inj]
  exact eq_comm

/-- A member `save` of `Content` whose `@see #delete` names a sibling, as a run leaves it. -/
def contentSave : Symbol where
  name := "save"
  memberof := "Content"
  doc := { tags := [{ title := "see", desc := "#delete" }] }
  renderedSeeTags :=
    ["<div class=\"see\"><a href=\"Content.html#Content.delete\">Content.delete</a></div>"]

theorem relative_link_url_content :
    (∀ ns ∈ ({} : LinkSettings).namespaces, Text.startsWith ns "#" = false) ∧
    (⟨"res.js", [contentSave], []⟩ : SourceFile) ∈
      (publishPass {} [⟨"res.js", [contentSave], []⟩]).files ∧
    (contentSave, Text.ofString "Content") ∈ [contentSave].zip (groupsOf [contentSave]) ∧
    contentSave.memberof ≠ [] ∧ inCore "res.js" = false ∧ isJalaHopObject "res.js" = false ∧
    SeeLink.resolve {} "#delete" "Content" ∈ contentSave.seeLinks {} ∧
    Text.startsWith (SeeLink.resolve {} "#delete" "Content").target "#" = true ∧
    (pageFor "Content" "res.js" ∈ (publishPass {} [⟨"res.js", [contentSave], []⟩]).index.keys ∧
      (SeeLink.resolve {} "#delete" "Content").url =
        contentSave.memberof ++ ".html#" ++ (SeeLink.resolve {} "#delete" "Content").text ∧
      ((SeeLink.resolve {} "#delete" "Content").url =
          pageFor "Content" "res.js" ++ "#" ++ (SeeLink.resolve {} "#delete" "Content").text ↔
        (Text.splitOn '.' contentSave.memberof).length ≤ 2)) := by
  have hns : ∀ ns ∈ ({} : LinkSettings).namespaces, Text.startsWith ns "#" = false := by decide
  have hf : (⟨"res.js", [contentSave], []⟩ : SourceFile) ∈
      (publishPass {} [⟨"res.js", [contentSave], []⟩]).files := by decide +kernel
  have hsg : (contentSave, Text.ofString "Content") ∈ [contentSave].zip (groupsOf [contentSave]) := by
    decide
  have hM : contentSave.memberof ≠ [] := by decide
  have hl : SeeLink.resolve {} "#delete" "Content" ∈ contentSave.seeLinks {} := by decide
  have ht : Text.startsWith (SeeLink.resolve {} "#delete" "Content").target "#" = true := by decide
  exact ⟨hns, hf, hsg, hM, by decide, by decide, hl, ht,
    relative_link_url {} hns _ hf hsg hM (by decide) (by decide) hl ht⟩

/-- An owner of three segments: the `#g` reference of a member of `a.b.c` links to
`a.b.c.html`, while the member is documented on `a.b.html`. -/
theorem relative_link_misses_group_page :
    ∃ f ∈ (publishPass {} [{ path := "x.js"
                             symbols := [{ name := "f", memberof := "a.b.c"
                                           doc := { tags := [{ title := "see", desc := "#g" }] } }] }]).files,
    ∃ sg ∈ f.symbols.zip (groupsOf f.symbols), ∃ l ∈ sg.1.seeLinks {},
      sg.1.memberof ≠ [] ∧ inCore f.path = false ∧ isJalaHopObject f.path = false ∧
      Text.startsWith l.target "#" = true ∧ l.url ≠ pageFor sg.2 f.path ++ "#" ++ l.text := by
  decide

/-! ### Member and prototype references -/

/-- **An owner's member is reached by its qualified name.** In a publish run, take a symbol
whose owner `M` is not empty, holds no dot, is no namespace and does not start with `#`, and
whose name `n` holds no dot; its page is in the index. Outside the core and the jala
`HopObject.js`, the reference `M.n` (its qualified name) links to that page, with the qualified
name as anchor, except that for the owner `global` the anchor is `n` alone. In a core file that
is not `JSON.js`, for an owner with no `_filter` or `_macro`, the reference `M.prototype.n` links
to that page with the qualified name as anchor. The referring symbol's owner plays no part. -/
theorem owner_member_link (st : LinkSettings) (files : List SourceFile) {f : SourceFile}
    (hf : f ∈ (publishPass st files).files) {s : Symbol} {g : Text}
    (hsg : (s, g) ∈ f.symbols.zip (groupsOf f.symbols)) (hM : s.memberof ≠ [])
    (hdot : Point.char '.' ∉ s.memberof) (hns : s.memberof ∉ st.namespaces)
    (hhash : Text.startsWith s.memberof "#" = false) (hn : Point.char '.' ∉ s.name) (o : Text) :
    pageFor g f.path ∈ (publishPass st files).index.keys ∧
    (inCore f.path = false → isJalaHopObject f.path = false →
      (SeeLink.resolve st s.qualifiedName o).url =
        pageFor g f.path ++ "#" ++ (if s.memberof = "global" then s.name else s.qualifiedName)) ∧
    (inCore f.path = true → Text.contains f.path "JSON.js" = false →
      Text.contains s.memberof "_filter" = false → Text.contains s.memberof "_macro" = false →
      isJalaHopObject f.path = false →
      (SeeLink.resolve st (s.memberof ++ ".prototype." ++ s.name) o).url =
        pageFor g f.path ++ "#" ++ s.qualifiedName) := by
  have hg : g = s.memberof :=
    (group_of_mem_zip_groupsOf hsg hM).trans (groupNameFor_of_not_mem hdot)
  have hq : s.qualifiedName = s.memberof ++ "." ++ s.name := by
    simp [Symbol.qualifiedName, List.isEmpty_eq_false_iff.2 hM]
  refine ⟨pageFor_mem_keys hf hsg, fun hc hj => ?_, fun hc hjson hfil hmac hj => ?_⟩
  · -- the member rule: the page of the first segment, anchored by the whole reference
    rw [hq, SeeLink.resolve_of_firstMatch _ (Rule.firstMatch_member hM hdot hns hhash hn), hg,
      pageFor_of_not_inCore hj hc]
    simp only [Rule.url]
    rw [Text.splitOn_dotted hdot hn]
    simp only [Text.ofString_html_hash, List.append_assoc]
    by_cases hglobal : s.memberof = "global" <;> simp [hglobal]
  · -- the prototype rule: the owner's extensions page, anchored by owner and member
    rw [SeeLink.resolve_of_firstMatch _ (Rule.firstMatch_prototype hM hdot hns hhash hn), hg,
      pageFor_of_inCore hj hc hjson (hg ▸ hfil) (hg ▸ hmac), hq]
    have hsplit : Text.splitOnText Rule.prototypeSeparator (s.memberof ++ ".prototype." ++ s.name) =
        [s.memberof, s.name] := by
      rw [show Rule.prototypeSeparator = Point.char '.' :: Text.ofString "prototype." from rfl,
        show Text.ofString ".prototype." = Point.char '.' :: Text.ofString "prototype." from rfl]
      exact Text.splitOnText_append_sep hdot hn
    simp only [Rule.url]
    rw [hsplit]
    simp only [Text.ofString_extensions_hash, List.append_assoc]

/-- `res.write`, a member of `res` in `res.js`, is reached by its qualified name. -/
theorem owner_member_link_res :
    (⟨"res.js", [{ name := "write", memberof := "res" }], []⟩ : SourceFile) ∈
      (publishPass {} [⟨"res.js", [{ name := "write", memberof := "res" }], []⟩]).files ∧
    (({ name := "write", memberof := "res" } : Symbol), Text.ofString "res") ∈
      [({ name := "write", memberof := "res" } : Symbol)].zip
        (groupsOf [{ name := "write", memberof := "res" }]) ∧
    Text.ofString "res" ≠ [] ∧ Point.char '.' ∉ Text.ofString "res" ∧
    Text.ofString "res" ∉ ({} : LinkSettings).namespaces ∧
    Text.startsWith "res" "#" = false ∧ Point.char '.' ∉ Text.ofString "write" ∧
    (pageFor "res" "res.js" ∈
        (publishPass {} [⟨"res.js", [{ name := "write", memberof := "res" }], []⟩]).index.keys ∧
      (inCore "res.js" = false → isJalaHopObject "res.js" = false →
        (SeeLink.resolve {} "res.write" []).url =
          pageFor "res" "res.js" ++ "#" ++
            (if Text.ofString "res" = "global" then "write" else "res.write")) ∧
      (inCore "res.js" = true → Text.contains "res.js" "JSON.js" = false →
        Text.contains "res" "_filter" = false → Text.contains "res" "_macro" = false →
        isJalaHopObject "res.js" = false →
        (SeeLink.resolve {} ("res" ++ ".prototype." ++ "write") []).url =
          pageFor "res" "res.js" ++ "#" ++ "res.write")) := by
  have hf : (⟨"res.js", [{ name := "write", memberof := "res" }], []⟩ : SourceFile) ∈
      (publishPass {} [⟨"res.js", [{ name := "write", memberof := "res" }], []⟩]).files := by
    decide
  have hsg : (({ name := "write", memberof := "res" } : Symbol), Text.ofString "res") ∈
      [({ name := "write", memberof := "res" } : Symbol)].zip
        (groupsOf [{ name := "write", memberof := "res" }]) := by
    decide
  have hM : Text.ofString "res" ≠ [] := by decide
  have hdot : Point.char '.' ∉ Text.ofString "res" := by decide
  have hns : Text.ofString "res" ∉ ({} : LinkSettings).namespaces := by decide
  have hhash : Text.startsWith "res" "#" = false := by decide
  have hn : Point.char '.' ∉ Text.ofString "write" := by decide
  exact ⟨hf, hsg, hM, hdot, hns, hhash, hn,
    owner_member_link {} _ hf hsg hM hdot hns hhash hn []⟩

/-- The owner `global`: its member `w` is anchored `global.w` on `global.html`, and the
reference `global.w` links to `global.html#w`. -/
theorem global_member_link_misses_anchor :
    ∃ f ∈ (publishPass {} [{ path := "x.js"
                             symbols := [{ name := "w", memberof := "global" }] }]).files,
    ∃ sg ∈ f.symbols.zip (groupsOf f.symbols),
      sg.1.memberof ≠ [] ∧ Point.char '.' ∉ sg.1.memberof ∧
      sg.1.memberof ∉ ({} : LinkSettings).namespaces ∧
      Text.startsWith sg.1.memberof "#" = false ∧ Point.char '.' ∉ sg.1.name ∧
      inCore f.path = false ∧ isJalaHopObject f.path = false ∧
      (SeeLink.resolve {} sg.1.qualifiedName []).url ≠
        pageFor sg.2 f.path ++ "#" ++ sg.1.qualifiedName := by
  decide

end DocPages
