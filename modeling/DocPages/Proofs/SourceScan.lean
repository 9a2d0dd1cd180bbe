import DocPages.Proofs.SourceWalk
import DocPages.Proofs.RunLinks
import DocPages.Proofs.Traversals
/-!
# Collecting sources

A scan takes its sources in the order given. Each source is read as a path, a leading `~`
expanded to the home directory the system reports, and made absolute; the system is then asked
what stands there. The first source that fails stops the scan with its error. Otherwise each
source stands for a list of files: a file for itself, under the label it was given as; a
directory for the files its walk collects, in walk order, each labelled with the directory's
name and its path below it. The scan joins these lists in order and keeps each path the first
time it comes.

A source fails as missing exactly when it is looked up and nothing stands there. A source that
cannot be handed to the system (its user has no known home, or its name has no byte form or
holds a null character) fails with an error of its own, though nothing stands at it either, as
does a path with a name too long for the system.

## What is proved

* `scanSources_eq` — the scan is the sources' lists joined, each path kept the first time.
* `sourceFiles_eq_notFound_iff`, `sourceFiles_of_file`, `sourceFiles_of_dir` — what one source
  stands for.
* `scanSources_collects` — the scan of any sources in a well-formed tree, all of the above
  together.
* `scan_refused_source_not_missing` — a source with a null character names nothing, yet the scan
  does not fail as missing.
-/

namespace DocPages

/-! ### Each path once -/

/-- The files of a list whose path no earlier file of it has: each path once, the first time it
comes. -/
def firstPerPath (fs : List ScannedFile) : List ScannedFile :=
  (fs.zipIdx.filter fun p => p.1.path ∉ (fs.take p.2).map (·.path)).map Prod.fst

/-- The scan's step: a file is added unless a file with its path is there already. -/
def addFile (acc : List ScannedFile) (f : ScannedFile) : List ScannedFile :=
  if acc.any (·.path == f.path) then acc else acc ++ [f]

theorem addFile_of_mem {acc : List ScannedFile} {f : ScannedFile}
    (h : f.path ∈ acc.map (·.path)) : addFile acc f = acc := by
  have hany : acc.any (·.path == f.path) = true := by simpa using h
  simp [addFile, hany]

theorem addFile_of_not_mem {acc : List ScannedFile} {f : ScannedFile}
    (h : f.path ∉ acc.map (·.path)) : addFile acc f = acc ++ [f] := by
  have hany : acc.any (·.path == f.path) = false := by simpa using h
  simp [addFile, hany]

/-- Adding files one by one keeps those whose path neither the start nor an earlier file has. -/
theorem foldl_addFile (acc fs : List ScannedFile) :
    fs.foldl addFile acc = acc ++
      (fs.zipIdx.filter fun p => p.1.path ∉ (acc ++ fs.take p.2).map (·.path)).map Prod.fst := by
  induction fs generalizing acc with
  | nil => simp
  | cons f rest ih =>
    rw [List.foldl_cons, List.zipIdx_cons, Nat.zero_add, List.filter_cons, ih]
    by_cases hnew : f.path ∈ acc.map (·.path)
    · -- a path seen already changes nothing
      rw [addFile_of_mem hnew, if_neg (by simpa using hnew), map_fst_filter_zipIdx_one]
      refine congrArg (acc ++ ·) (congrArg _ (List.filter_congr fun p _ => ?_))
      have hseen : ∀ x, x ∈ (acc ++ (f :: rest).take (p.2 + 1)).map (·.path) ↔
          x ∈ (acc ++ rest.take p.2).map (·.path) := by
        intro x
        simp only [List.take_succ_cons, List.map_append, List.map_cons, List.mem_append,
          List.mem_cons]
        constructor
        · rintro (hx | rfl | hx)
          exacts [.inl hx, .inl hnew, .inr hx]
        · rintro (hx | hx)
          exacts [.inl hx, .inr (.inr hx)]
      simp only [hseen]
    · -- a new path is added, and counts as seen from then on
      rw [addFile_of_not_mem hnew, if_pos (by simpa using hnew), List.map_cons,
        map_fst_filter_zipIdx_one]
      simp only [List.append_assoc, List.singleton_append, List.take_succ_cons]
      rfl

theorem foldl_addFile_nil (fs : List ScannedFile) : fs.foldl addFile [] = firstPerPath fs := by
  rw [foldl_addFile, List.nil_append, firstPerPath]
  simp only [List.nil_append]

/-- **The scan joins the sources' lists.** It is the traversal of the sources, each standing for
its list of files, the lists joined with each path kept the first time it comes. -/
theorem scanSources_eq (homes : PurePath.Homes) (t : Tree) (cwd exclude sources : List Text) :
    scanSources homes t cwd exclude sources =
      (sources.mapM (sourceFiles homes t cwd (ignoreRules exclude))).map
        fun fss => firstPerPath fss.flatten := by
  have hfold := foldlM_eq_map_mapM (sourceFiles homes t cwd (ignoreRules exclude)) addFile sources []
  simp only [foldl_addFile_nil] at hfold
  exact hfold

/-! ### What one source stands for -/

/-- A source read as a path, a leading `~` expanded with the home directories `homes`, and made
absolute from `cwd`. -/
def Locates (homes : PurePath.Homes) (cwd : List Text) (source : Text) (given path : PurePath) :
    Prop :=
  (PurePath.ofText source).expandUser homes = some given ∧ Tree.absolute cwd given = .ok path

/-- A source at which the system, asked as a path library asks, finds nothing. -/
def NamesNothing (homes : PurePath.Homes) (t : Tree) (cwd : List Text) (source : Text) : Prop :=
  ∃ given path, Locates homes cwd source given path ∧ t.probe cwd path = .ok none

/-- The files below a directory at `path`, by their paths `r` below it, each with its path and
its label: the directory's name and `r`. -/
def belowDir (path : PurePath) (W : List (List Text)) : List ScannedFile :=
  W.map fun r => ⟨{ path with parts := path.parts ++ r }, Text.join "/" (path.name :: r)⟩

section Source

variable {homes : PurePath.Homes} {t : Tree} {cwd : List Text} {rules : List IgnoreRule}
  {source : Text} {given path : PurePath}

theorem sourceFiles_of_expandUser_none (h : (PurePath.ofText source).expandUser homes = none) :
    sourceFiles homes t cwd rules source = .error .noHome := by
  simp only [sourceFiles, h]
  rfl

theorem sourceFiles_of_absolute_error {e : FsError}
    (hg : (PurePath.ofText source).expandUser homes = some given)
    (h : Tree.absolute cwd given = .error e) :
    sourceFiles homes t cwd rules source = .error (.fs e) := by
  simp only [sourceFiles, hg, h]
  rfl

/-- Once a source is located, what it stands for follows from what the system finds there. -/
theorem sourceFiles_of_locates (h : Locates homes cwd source given path) :
    sourceFiles homes t cwd rules source = match t.probe cwd path with
      | .error e => .error (.fs (.io e))
      | .ok none => .error (.notFound source)
      | .ok (some .dir) => .ok (belowDir path
          (walkSources t rules (t.nodes.length + 1) (path.parts.map Tree.canonicalName) []))
      | .ok (some (.file _)) => .ok [{ path, label := given.toText }] := by
  obtain ⟨hg, hp⟩ := h
  simp only [sourceFiles, hg, hp, Tree.probeExists, Tree.probeDir, Except.mapError, bind,
    Except.bind]
  cases t.probe cwd path with
  | error e => rfl
  | ok node =>
    rcases node with _ | _ | _ <;> rfl

/-- A source fails as missing exactly when the system finds nothing at it. A source that cannot
be located names nothing either, but fails with an error of its own. -/
theorem sourceFiles_eq_notFound_iff {x : Text} :
    sourceFiles homes t cwd rules source = .error (.notFound x) ↔
      x = source ∧ NamesNothing homes t cwd source := by
  cases hg : (PurePath.ofText source).expandUser homes with
  | none =>
    rw [sourceFiles_of_expandUser_none hg]
    simp [NamesNothing, Locates, hg]
  | some given =>
    cases hp : Tree.absolute cwd given with
    | error e =>
      rw [sourceFiles_of_absolute_error hg hp]
      simp [NamesNothing, Locates, hg, hp]
    | ok path =>
      have hnothing : NamesNothing homes t cwd source ↔ t.probe cwd path = .ok none := by
        simp [NamesNothing, Locates, hg, hp]
      rw [sourceFiles_of_locates ⟨hg, hp⟩, hnothing]
      cases t.probe cwd path with
      | error e => simp
      | ok node =>
        rcases node with _ | _ | _ <;> simp [eq_comm]

/-- A file stands for itself, under the label it was given as. -/
theorem sourceFiles_of_file {bytes : List UInt8} (h : Locates homes cwd source given path)
    (hf : t.probe cwd path = .ok (some (.file bytes))) :
    sourceFiles homes t cwd rules source = .ok [{ path, label := given.toText }] := by
  rw [sourceFiles_of_locates h, hf]

/-- A directory stands for the files its walk collects, in walk order. -/
theorem sourceFiles_of_dir (ht : t.WellFormed) (h : Locates homes cwd source given path)
    (hd : t.probe cwd path = .ok (some .dir)) :
    ∃ W, sourceFiles homes t cwd rules source = .ok (belowDir path W) ∧
      (∀ r, r ∈ W ↔ Collected t rules (path.parts.map Tree.canonicalName) r) ∧
      W.Pairwise WalkBefore := by
  refine ⟨_, by rw [sourceFiles_of_locates h, hd], fun r => ?_, pairwise_walkSources ht _ _ _⟩
  have hmem : r ∈ walkSources t rules (t.nodes.length + 1)
      (path.parts.map Tree.canonicalName ++ []) [] ↔ _ :=
    mem_walkSources_iff (by simp) (fun q hq hne => absurd (List.prefix_nil.mp hq) hne) r
  rw [List.append_nil] at hmem
  simp only [hmem, Collected, List.nil_append]

end Source

/-! ### The scan -/

/-- What a scan of `sources` does in the tree `t` from `cwd`, with the exclude patterns
`exclude`. -/
structure CollectsSources (homes : PurePath.Homes) (t : Tree) (cwd exclude sources : List Text) :
    Prop where
  /-- When every source stands for a list of files, the scan gives them joined in order, each
  path the first time it comes. -/
  ok_iff : ∀ files, scanSources homes t cwd exclude sources = .ok files ↔
    ∃ fss, List.Forall₂ (fun s fs => sourceFiles homes t cwd (ignoreRules exclude) s = .ok fs)
      sources fss ∧ files = firstPerPath fss.flatten
  /-- Otherwise it fails with the error of the first source that fails. -/
  error_iff : ∀ e, scanSources homes t cwd exclude sources = .error e ↔
    ∃ before s after, sources = before ++ s :: after ∧
      (∀ b ∈ before, ∃ fs, sourceFiles homes t cwd (ignoreRules exclude) b = .ok fs) ∧
      sourceFiles homes t cwd (ignoreRules exclude) s = .error e
  /-- A source fails as missing exactly when the system finds nothing at it. -/
  notFound_iff : ∀ s x, sourceFiles homes t cwd (ignoreRules exclude) s = .error (.notFound x) ↔
    x = s ∧ NamesNothing homes t cwd s
  /-- A file stands for itself, under the label it was given as, whatever its name. -/
  file : ∀ s given path bytes, Locates homes cwd s given path →
    t.probe cwd path = .ok (some (.file bytes)) →
    sourceFiles homes t cwd (ignoreRules exclude) s = .ok [{ path, label := given.toText }]
  /-- A directory stands for the files its walk collects, in walk order, each labelled with the
  directory's name and its path below it. -/
  dir : ∀ s given path, Locates homes cwd s given path → t.probe cwd path = .ok (some .dir) →
    ∃ W, sourceFiles homes t cwd (ignoreRules exclude) s = .ok (belowDir path W) ∧
      (∀ r, r ∈ W ↔ Collected t (ignoreRules exclude) (path.parts.map Tree.canonicalName) r) ∧
      W.Pairwise WalkBefore

/-- **Collecting sources.** In a well-formed tree, the scan of any sources with any exclude
patterns takes them in order and stops at the first that fails. A source fails as missing
exactly when it is looked up and nothing stands there; a source that cannot be looked up fails
with an error of its own. A file stands for itself, and a directory for the files below it that
end in `.js`, that no rule excludes as files, and that lie in no version control or package
directory and in no directory a rule excludes, in walk order. The lists are joined and each path
kept the first time it comes. -/
theorem scanSources_collects (homes : PurePath.Homes) {t : Tree} (ht : t.WellFormed)
    (cwd exclude sources : List Text) : CollectsSources homes t cwd exclude sources where
  ok_iff files := by
    rw [scanSources_eq, map_eq_ok_iff]
    simp only [mapM_eq_ok_iff]
  error_iff e := by
    rw [scanSources_eq, map_eq_error_iff, mapM_eq_error_iff]
  notFound_iff _ _ := sourceFiles_eq_notFound_iff
  file _ _ _ _ := sourceFiles_of_file
  dir _ _ _ := sourceFiles_of_dir ht

/-- A site directory holding a source file, a library directory and a package directory. -/
def siteTree : Tree where
  nodes := [(["site"], .dir), (["site", "app.js"], .file []), (["site", "lib"], .dir),
    (["site", "lib", "util.js"], .file []), (["site", "node_modules"], .dir),
    (["site", "node_modules", "dep.js"], .file [])]

theorem scanSources_collects_site :
    siteTree.WellFormed ∧ CollectsSources {} siteTree [] ["lib/"] ["site", "site/app.js"] :=
  ⟨by decide +kernel, scanSources_collects {} (by decide +kernel) _ _ _⟩

/-- A source holding a null character names nothing, yet the scan does not fail on it as
missing: the system refuses the name. -/
theorem scan_refused_source_not_missing :
    Tree.exists? {} [] (PurePath.ofText "a\x00b") = false ∧
      scanSources {} {} [] [] ["a\x00b"] = .error (.fs .nullByte) := by
  decide +kernel

end DocPages
