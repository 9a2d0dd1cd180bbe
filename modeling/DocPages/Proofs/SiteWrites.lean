import DocPages.Proofs.AssetCopies
import DocPages.Proofs.Separators
/-!
# Writing a site

A site is written into its output directory in one fixed order: the page of each index entry in
index order, the Java libraries page, `index.html` as a byte copy of `global.html` when that was
written, then the assets. Every write puts a whole file, so a file that is written twice holds
its last content, and the run returns the path of every write, repeats included. Each write is
logged, and so is the missing `global.html`.

This holds for every template engine, given that the template compiles and renders each page to
a text with a byte form, when the output directory is there and empty and lies apart from the
template directories, when the log file, if any, lies apart from all of them, when no page name
holds `/`, and when every page can be written: its name can be handed to the system. A page
whose name holds a null character cannot be written, and the run fails at it.

## What is proved

* `Tree.get?_putFiles` — after a sequence of writes, each location holds its last write.
* `Site.writePage_eq` — one page: its file holds the bytes of its text, and its write is logged.
* `Site.writeEntries_eq` — the pages of the index entries, in order.
* `Site.copyGlobalPage_eq` — `index.html` is written exactly when `global.html` was, with its
  bytes; otherwise a warning is logged.
* `Site.emit_eq` — the whole run: the paths returned, the records logged and the files left.
* `Site.emit_writes` — and so each file holds its last write, and `index.html` the bytes of
  `global.html`.
* `Site.emit_null_key` — a page name holding a null character stops the run.
-/

namespace DocPages

/-! ### Paths of one name -/

namespace PurePath

/-- A name without `/` that is neither empty nor `.` is the relative path of that one name. -/
theorem ofText_name {k : Text} (hs : Point.char '/' ∉ k) (hne : k ≠ []) (hdot : k ≠ ".") :
    ofText k = { parts := [k] } := by
  have hlead : (k.takeWhile (· == .char '/')).length = 0 := by
    cases k with
    | nil => exact absurd rfl hne
    | cons c r =>
      have hc : c ≠ .char '/' := fun h => hs (h ▸ List.mem_cons_self)
      simp [hc]
  simp [ofText, hlead, Text.splitOn_of_not_mem hs, hne, hdot]

theorem join_name (out : PurePath) (k : Text) : out.join { parts := [k] } = Tree.childPath out k := by
  simp [join, isAbsolute, Tree.childPath]

end PurePath

/-! ### Reading what was written -/

namespace Tree

variable {t : Tree} {cwd : List Text}

/-- **Last write wins.** After a sequence of writes, a location holds the bytes written there
last, or what it held before when nothing was written there. -/
theorem get?_putFiles {L : List Text} (hL : L ≠ []) (ws : List (List Text × List UInt8)) :
    (t.putFiles ws).get? L =
      ((ws.reverse.find? (·.1 == L)).map fun w => Node.file w.2).or (t.get? L) := by
  induction ws generalizing t with
  | nil => simp [putFiles]
  | cons w ws ih =>
    rw [show t.putFiles (w :: ws) = (t.set w.1 (.file w.2)).putFiles ws from rfl, ih, get?_set hL,
      List.reverse_cons, List.find?_append]
    cases hfind : ws.reverse.find? (·.1 == L) with
    | some w' => simp
    | none =>
      by_cases hw : L = w.1
      · subst hw
        simp
      · have hw' : (w.1 == L) = false := by simpa using Ne.symm hw
        simp [hw, hw']

theorem canonicalName_plain {y : Text} (hy : y.PlainAscii) : canonicalName y = y :=
  (canonicalName_eq_iff hy).mpr rfl

/-- A path that can be written reaches the location it is written to, when something stands
there. -/
theorem reach_of_fileTarget {p : PurePath} {L : List Text} (h : t.fileTarget cwd p = .ok L) :
    t.reach cwd p = if t.has L then .ok L else .error (.io (.notFound p.toText)) := by
  obtain ⟨s, ns, last, D, hn, hD, hdir, htoo, h1, h2, rfl, -⟩ := fileTarget_eq_ok h
  have hstep : stepName D last = D ++ [last] := by simp [stepName, h1, h2]
  have hloc : t.locate s (ns ++ [last]) = .ok (D ++ [last]) := by
    rw [locate_append, hD]
    simp [Except.bind, locate, hdir, htoo, hstep]
  simp only [reach, hn, hloc, bind, Except.bind]

/-- Whether a path that can be written names something: whether something stands where it is
written. -/
theorem probeExists_of_fileTarget {p : PurePath} {L : List Text} (h : t.fileTarget cwd p = .ok L) :
    t.probeExists cwd p = .ok (t.has L) := by
  have hr := reach_of_fileTarget h
  cases hL : t.has L with
  | true =>
    rw [if_pos hL] at hr
    simp [probeExists, probe, stat, hr]
  | false =>
    rw [if_neg (by simp [hL])] at hr
    simp [probeExists, probe, stat, hr]

/-- A path that can be written, where a file stands, reads as that file. -/
theorem readFile_of_fileTarget {p : PurePath} {L : List Text} {bytes : List UInt8}
    (h : t.fileTarget cwd p = .ok L) (hb : t.get? L = some (.file bytes)) :
    t.readFile cwd p = .ok bytes := by
  have hr := reach_of_fileTarget h
  rw [if_pos (by simp [has, hb])] at hr
  simp [readFile, hr, hb]

/-- A path that reaches a directory is one, as a path library asks. -/
theorem probeDir_of_reach {p : PurePath} {L : List Text} (h : t.reach cwd p = .ok L)
    (hd : t.isDirAt L = true) : t.probeDir cwd p = .ok true := by
  have hget : t.get? L = some .dir := by simpa [isDirAt] using hd
  simp [probeDir, probe, stat, h, hget]

/-- Nothing stands in an empty directory. -/
theorem get?_of_entries_nil {o : List Text} (h : t.entries o = []) (n : Text) :
    t.get? (o ++ [n]) = none := by
  have hhas : t.has (o ++ [n]) = false := by
    rw [Bool.eq_false_iff, ne_eq, has_append_iff, h]
    exact List.not_mem_nil
  simpa [has] using hhas

end Tree

/-! ### Writing pages -/

namespace Site

open DocPages.Tree

/-- The record logged for a page written at `p`. -/
def pageRecord (p : PurePath) : LogRecord :=
  LogRecord.debug .emitter (Text.ofString "Wrote " ++ p.toText)

/-- The bytes a text is written as; none for a text without a byte form. -/
def textBytes (t : Text) : List UInt8 :=
  (Text.encodeUtf8 t).toOption.getD []

theorem textBytes_of_encode {t : Text} {bytes : List UInt8} (h : Text.encodeUtf8 t = .ok bytes) :
    textBytes t = bytes := by
  simp [textBytes, h, Except.toOption]

/-- The bytes of the page a compiled template renders for the view `v`: those of its text; none
when it does not render. -/
def pageBytes (eng : Engine) (c : eng.Compiled) (pages : List Text) (v : PageView) : List UInt8 :=
  match eng.render c pages v with
  | .ok html => textBytes html
  | .error _ => []

theorem pageBytes_of_render {eng : Engine} {c : eng.Compiled} {pages : List Text} {v : PageView}
    {html : Text} {bytes : List UInt8} (hr : eng.render c pages v = .ok html)
    (henc : Text.encodeUtf8 html = .ok bytes) : pageBytes eng c pages v = bytes := by
  simp [pageBytes, hr, textBytes_of_encode henc]

/-- The view of the page of an index entry. -/
def entryView (files : List SourceFile) (entry : Text × IndexEntry) : PageView :=
  .group entry.1 entry.2.name (files.getD entry.2.file {})

/-- Files by name, placed in the directory at `o`. -/
def inDir (o : List Text) (ws : List (Text × List UInt8)) : List (List Text × List UInt8) :=
  ws.map fun w => (o ++ [canonicalName w.1], w.2)

/-- The bytes written last under the name `n`, if any were. -/
def lastBytes (ws : List (Text × List UInt8)) (n : Text) : Option (List UInt8) :=
  (ws.reverse.find? (·.1 == n)).map (·.2)

@[simp] theorem lastBytes_nil (n : Text) : lastBytes [] n = none := rfl

theorem lastBytes_append (ws ws' : List (Text × List UInt8)) (n : Text) :
    lastBytes (ws ++ ws') n = (lastBytes ws' n).or (lastBytes ws n) := by
  simp only [lastBytes, List.reverse_append, List.find?_append, Option.map_or]

theorem lastBytes_singleton (w : Text × List UInt8) (n : Text) :
    lastBytes [w] n = if w.1 = n then some w.2 else none := by
  by_cases h : w.1 = n <;> simp [lastBytes, h]

theorem lastBytes_isSome_iff (ws : List (Text × List UInt8)) (n : Text) :
    (lastBytes ws n).isSome ↔ n ∈ ws.map (·.1) := by
  rw [lastBytes, Option.isSome_map, List.find?_isSome]
  constructor
  · rintro ⟨w, hw, hn⟩
    exact List.mem_map.2 ⟨w, List.mem_reverse.1 hw, beq_iff_eq.1 hn⟩
  · intro h
    obtain ⟨w, hw, rfl⟩ := List.mem_map.1 h
    exact ⟨w, List.mem_reverse.2 hw, beq_self_eq_true _⟩

/-- A plain name in the directory at `o` holds what was written last under it there, or what
it held before. -/
theorem get?_inDir {t : Tree} {o : List Text} {n : Text} (hn : n.PlainAscii)
    (ws : List (Text × List UInt8)) :
    (t.putFiles (inDir o ws)).get? (o ++ [n]) =
      ((lastBytes ws n).map Node.file).or (t.get? (o ++ [n])) := by
  have hp : ((fun w : List Text × List UInt8 => w.1 == o ++ [n]) ∘
      fun w : Text × List UInt8 => (o ++ [canonicalName w.1], w.2)) = fun w => w.1 == n := by
    funext w
    simp [canonicalName_eq_iff hn]
  rw [get?_putFiles (by simp), inDir, ← List.map_reverse, List.find?_map, hp, lastBytes,
    Option.map_map, Option.map_map]
  rfl

/-- Files put by name into an empty directory land directly in it, where no directory stands. -/
theorem inDir_fresh {t : Tree} {o : List Text} (hempty : t.entries o = [])
    (ws : List (Text × List UInt8)) :
    ∀ f ∈ inDir o ws, ∃ m, f.1 = o ++ [m] ∧ t.isDirAt f.1 = false := by
  intro f hf
  obtain ⟨w, -, rfl⟩ := List.mem_map.mp hf
  exact ⟨_, rfl, by simp [isDirAt, get?_of_entries_nil hempty]⟩

/-- Records logged and files put into the directory at `o`, twice over, are all the records
logged and then all the files put, when the log file lies outside `o`. -/
theorem logAll_putFiles_append {s : Session} {o : List Text} (hlog : LogOutside o s.sink)
    (rs rs' : List LogRecord) (ws ws' : List (Text × List UInt8)) :
    (((s.logAll rs).putFiles (inDir o ws)).logAll rs').putFiles (inDir o ws') =
      (s.logAll (rs ++ rs')).putFiles (inDir o (ws ++ ws')) := by
  have hw : ∀ f ∈ inDir o ws, s.sink.file ≠ some f.1 := by
    intro f hf
    obtain ⟨w, -, rfl⟩ := List.mem_map.mp hf
    exact hlog.ne _
  rw [Session.logAll_putFiles_logAll hw, inDir, inDir, inDir, List.map_append]

/-- The pages of index entries, each by its name with the bytes of its page. -/
def entryFiles (eng : Engine) (c : eng.Compiled) (pages : List Text) (files : List SourceFile)
    (es : List (Text × IndexEntry)) : List (Text × List UInt8) :=
  es.map fun x => (x.1, pageBytes eng c pages (entryView files x))

/-- The session after writing the pages `ws` into the directory at `o`, which `out` names, from
`s₁` on: each page's record logged, and each page's file put in place. -/
def afterPages (o : List Text) (out : PurePath) (s₁ : Session) (ws : List (Text × List UInt8)) :
    Session :=
  (s₁.logAll (ws.map fun w => pageRecord (out.join (PurePath.ofText w.1)))).putFiles (inDir o ws)

theorem afterPages_append {o : List Text} {out : PurePath} {s₁ : Session}
    (hlog : LogOutside o s₁.sink) (ws ws' : List (Text × List UInt8)) :
    afterPages o out (afterPages o out s₁ ws) ws' = afterPages o out s₁ (ws ++ ws') := by
  rw [afterPages, afterPages, logAll_putFiles_append hlog, ← List.map_append]
  rfl

@[simp] theorem afterPages_cwd (o : List Text) (out : PurePath) (s₁ : Session)
    (ws : List (Text × List UInt8)) : (afterPages o out s₁ ws).cwd = s₁.cwd := by
  simp [afterPages]

@[simp] theorem afterPages_sink (o : List Text) (out : PurePath) (s₁ : Session)
    (ws : List (Text × List UInt8)) : (afterPages o out s₁ ws).sink = s₁.sink := by
  simp [afterPages]

/-- **A text file** is made or emptied, then holds the text's bytes. -/
theorem writeText_eq {s₁ : Session} {p : PurePath} {content : Text} {L : List Text}
    {bytes : List UInt8} (hL : s₁.tree.fileTarget s₁.cwd p = .ok L)
    (henc : Text.encodeUtf8 content = .ok bytes) :
    writeText p content s₁ = .ok () (s₁.putFiles [(L, bytes)]) := by
  obtain ⟨-, -, -, -, -, -, -, -, -, -, -, hdir⟩ := fileTarget_eq_ok hL
  have hemptied : (s₁.tree.set L (.file [])).fileTarget s₁.cwd p = .ok L :=
    fileTarget_eq_of_dirs (fun _ => isDirAt_set_file hdir) hL
  simp [writeText, writeFile_eq _ hL, writeFile_eq _ hemptied, henc, set_set, Session.putFiles,
    putFiles_singleton]

section Pages

variable {s s₁ : Session} {o : List Text} {out : PurePath}

/-- A file given by one name is written in the output directory under that name. -/
theorem namedTarget {n : Text} {L : List Text} (hout : s.tree.reach s.cwd out = .ok o)
    (hL : s.tree.fileTarget s.cwd (out.join { parts := [n] }) = .ok L) :
    L = o ++ [canonicalName n] ∧ s.tree.isDirAt L = false := by
  rw [PurePath.join_name] at hL
  exact fileTarget_childPath hout hL

/-- The page named `k`, a plain name, is written in the output directory under `k`. -/
theorem pageTarget {k : Text} {L : List Text} (hout : s.tree.reach s.cwd out = .ok o)
    (hplain : PurePath.ofText k = { parts := [k] })
    (hL : s.tree.fileTarget s.cwd (out.join (PurePath.ofText k)) = .ok L) :
    L = o ++ [canonicalName k] ∧ s.tree.isDirAt L = false := by
  rw [hplain] at hL
  exact namedTarget hout hL

/-- A session of the run takes every write to where its first session would. -/
theorem fileTarget_of_continues {p : PurePath} {L : List Text} (hs₁ : Continues s o s₁)
    (hL : s.tree.fileTarget s.cwd p = .ok L) : s₁.tree.fileTarget s₁.cwd p = .ok L := by
  rw [hs₁.cwd]
  exact fileTarget_eq_of_dirs hs₁.agree.dirs hL

/-- Pages written into an empty output directory keep to the run. -/
theorem Continues.afterPages (hs₁ : Continues s o s₁) (hempty : s.tree.entries o = [])
    (out : PurePath) (ws : List (Text × List UInt8)) : Continues s o (afterPages o out s₁ ws) :=
  (hs₁.logAll _).putFiles (inDir_fresh hempty ws)

/-- A page name without `/` that can be written in the output directory is one plain name: a
name that stands for the directory itself, empty or `.`, cannot be written as a file. -/
theorem ofText_of_fileTarget {k : Text} (hs : Point.char '/' ∉ k)
    (hout : s.tree.reach s.cwd out = .ok o) (hdir : s.tree.isDirAt o = true)
    (htarget : ∃ L, s.tree.fileTarget s.cwd (out.join (PurePath.ofText k)) = .ok L) :
    PurePath.ofText k = { parts := [k] } := by
  by_cases hk : k = [] ∨ k = "."
  · obtain ⟨L, hL⟩ := htarget
    have hnone : PurePath.ofText k = { parts := [] } := by
      rcases hk with rfl | rfl <;> decide
    have hself : out.join (PurePath.ofText k) = out := by
      simp [hnone, PurePath.join, PurePath.isAbsolute]
    rw [hself] at hL
    obtain ⟨-, -, -, -, -, -, -, -, -, -, -, hfileAt⟩ := fileTarget_eq_ok hL
    have hLo : L = o := (fileTarget_eq_dest hL).trans (reach_eq_dest hout).symm
    rw [hLo, hdir] at hfileAt
    cases hfileAt
  · rw [not_or] at hk
    exact PurePath.ofText_name hs hk.1 hk.2

/-- **One page.** The page named `k` is rendered and written under its name in the output
directory, from any session of the run; its path is returned and logged. -/
theorem writePage_eq {eng : Engine} {c : eng.Compiled} {pages : List Text} {k : Text}
    {v : PageView} {html : Text} {bytes : List UInt8} (hs₁ : Continues s o s₁)
    (hlog : LogOutside o s.sink) (hout : s.tree.reach s.cwd out = .ok o)
    (hplain : PurePath.ofText k = { parts := [k] })
    (htarget : ∃ L, s.tree.fileTarget s.cwd (out.join (PurePath.ofText k)) = .ok L)
    (hr : eng.render c pages v = .ok html) (henc : Text.encodeUtf8 html = .ok bytes) :
    writePage eng c pages out k v s₁ =
      .ok (out.join (PurePath.ofText k)) (afterPages o out s₁ [(k, bytes)]) := by
  obtain ⟨L, hL⟩ := htarget
  obtain ⟨rfl, -⟩ := pageTarget hout hplain hL
  have hlogged : (s₁.putFiles [(o ++ [canonicalName k], bytes)]).log
      (pageRecord (out.join (PurePath.ofText k))) = afterPages o out s₁ [(k, bytes)] :=
    Session.putFiles_log (by simpa [hs₁.sink] using hlog.ne (canonicalName k)) _
  rw [← hlogged]
  simp [writePage, hr, writeText_eq (fileTarget_of_continues hs₁ hL) henc, pageRecord]

/-- **The pages of the index entries**, rendered and written in turn from any session of the
run: each under its name, its path returned and logged. The step run for an entry is any that
writes its page. -/
theorem writeEntries_eq {eng : Engine} {c : eng.Compiled} {pages : List Text}
    {files : List SourceFile} (hlog : LogOutside o s.sink) (hout : s.tree.reach s.cwd out = .ok o)
    (hempty : s.tree.entries o = []) (f : Text × IndexEntry → EmitStep PurePath)
    (hf : ∀ x, f x = writePage eng c pages out x.1 (entryView files x))
    (es : List (Text × IndexEntry)) (s₁ : Session) (hs₁ : Continues s o s₁)
    (hplain : ∀ x ∈ es, PurePath.ofText x.1 = { parts := [x.1] })
    (htargets : ∀ x ∈ es, ∃ L, s.tree.fileTarget s.cwd (out.join (PurePath.ofText x.1)) = .ok L)
    (htexts : ∀ x ∈ es, ∃ html bytes,
      eng.render c pages (entryView files x) = .ok html ∧ Text.encodeUtf8 html = .ok bytes) :
    es.mapM f s₁ =
      .ok (es.map fun x => out.join (PurePath.ofText x.1))
        (afterPages o out s₁ (entryFiles eng c pages files es)) := by
  induction es generalizing s₁ with
  | nil => rfl
  | cons x es ih =>
    obtain ⟨html, bytes, hr, henc⟩ := htexts x List.mem_cons_self
    have hpage := writePage_eq hs₁ hlog hout (hplain x List.mem_cons_self)
      (htargets x List.mem_cons_self) hr henc
    have hrest := ih (afterPages o out s₁ [(x.1, bytes)]) (hs₁.afterPages hempty out _)
      (fun y hy => hplain y (List.mem_cons_of_mem _ hy))
      (fun y hy => htargets y (List.mem_cons_of_mem _ hy))
      (fun y hy => htexts y (List.mem_cons_of_mem _ hy))
    rw [List.mapM_cons, Step.bind_run, hf, hpage]
    simp only [Step.bind_run, hrest, Step.pure_run, afterPages_append (hs₁.sink ▸ hlog)]
    simp [entryFiles, pageBytes_of_render hr henc]

end Pages

/-! ### The copy of `global.html` -/

section Global

variable {s s₁ : Session} {o : List Text} {out : PurePath}

/-- The copy of `global.html` as `index.html`, with the bytes `global.html` was written with
last, when it was written. -/
def indexCopy (ws : List (Text × List UInt8)) : List (Text × List UInt8) :=
  ((lastBytes ws "global.html").map fun b => (("index.html" : Text), b)).toList

/-- The warning logged when there is no `global.html` to copy. -/
def noGlobalRecord : LogRecord :=
  LogRecord.warning .emitter "global.html was not generated; skipping index.html"

/-- What the copy of `global.html` logs after the writes `ws`: the warning when `global.html`
was not written. -/
def indexRecords (ws : List (Text × List UInt8)) : List LogRecord :=
  if (lastBytes ws "global.html").isSome then [] else [noGlobalRecord]

/-- Where `global.html` is written in the output directory, from any session of the run. -/
theorem globalTarget (hs₁ : Continues s o s₁) (hout : s.tree.reach s.cwd out = .ok o)
    (hglobal : ∃ L, s.tree.fileTarget s.cwd (out.join { parts := ["global.html"] }) = .ok L) :
    s₁.tree.fileTarget s₁.cwd (out.join { parts := ["global.html"] }) =
      .ok (o ++ [("global.html" : Text)]) := by
  obtain ⟨L, hL⟩ := hglobal
  obtain ⟨rfl, -⟩ := namedTarget hout hL
  rw [canonicalName_plain (by decide)] at hL
  exact fileTarget_of_continues hs₁ hL

/-- **`index.html` copies `global.html`** when that is a file: it gets its bytes, and its path
is returned. -/
theorem copyGlobalPage_of_file {b : List UInt8} (hs₁ : Continues s o s₁)
    (hout : s.tree.reach s.cwd out = .ok o)
    (hglobal : ∃ L, s.tree.fileTarget s.cwd (out.join { parts := ["global.html"] }) = .ok L)
    (hindex : ∃ L, s.tree.fileTarget s.cwd (out.join { parts := ["index.html"] }) = .ok L)
    (hb : s₁.tree.get? (o ++ [("global.html" : Text)]) = some (.file b)) :
    copyGlobalPage out s₁ =
      .ok [out.join { parts := ["index.html"] }] (s₁.putFiles [(o ++ [("index.html" : Text)], b)]) := by
  have hG := globalTarget hs₁ hout hglobal
  obtain ⟨L, hL⟩ := hindex
  obtain ⟨rfl, -⟩ := namedTarget hout hL
  have hI := fileTarget_of_continues hs₁ hL
  rw [canonicalName_plain (by decide)] at hI
  have hprobe : s₁.tree.probeExists s₁.cwd (out.join { parts := ["global.html"] }) = .ok true := by
    rw [probeExists_of_fileTarget hG]
    simp [has, hb]
  simp [copyGlobalPage, hprobe, readFile_of_fileTarget hG hb, writeFile_eq _ hI,
    Session.putFiles, putFiles_singleton]

/-- Without `global.html`, nothing is copied and a warning is logged. -/
theorem copyGlobalPage_of_none (hs₁ : Continues s o s₁) (hout : s.tree.reach s.cwd out = .ok o)
    (hglobal : ∃ L, s.tree.fileTarget s.cwd (out.join { parts := ["global.html"] }) = .ok L)
    (hnone : s₁.tree.get? (o ++ [("global.html" : Text)]) = none) :
    copyGlobalPage out s₁ = .ok [] (s₁.log noGlobalRecord) := by
  have hprobe : s₁.tree.probeExists s₁.cwd (out.join { parts := ["global.html"] }) = .ok false := by
    rw [probeExists_of_fileTarget (globalTarget hs₁ hout hglobal)]
    simp [has, hnone]
  simp [copyGlobalPage, noGlobalRecord, hprobe]

/-- **`index.html` copies `global.html`.** After the pages `ws` are written into the empty
output directory, `index.html` is written with the bytes `global.html` was written with last,
and its path returned, exactly when `global.html` was written; otherwise a warning is logged. -/
theorem copyGlobalPage_eq (ws : List (Text × List UInt8)) (hlog : LogOutside o s.sink)
    (hempty : s.tree.entries o = []) (hout : s.tree.reach s.cwd out = .ok o)
    (hglobal : ∃ L, s.tree.fileTarget s.cwd (out.join { parts := ["global.html"] }) = .ok L)
    (hindex : ∃ L, s.tree.fileTarget s.cwd (out.join { parts := ["index.html"] }) = .ok L) :
    copyGlobalPage out (afterPages o out s ws) =
      .ok ((indexCopy ws).map fun _ => out.join { parts := ["index.html"] })
        (((afterPages o out s ws).logAll (indexRecords ws)).putFiles (inDir o (indexCopy ws))) := by
  have hs₁ := (Continues.refl s o).afterPages hempty out ws
  have hget : (afterPages o out s ws).tree.get? (o ++ [("global.html" : Text)]) =
      (lastBytes ws "global.html").map Node.file := by
    rw [afterPages, Session.putFiles_tree, get?_inDir (by decide), Session.logAll_get? (hlog.ne _),
      get?_of_entries_nil hempty, Option.or_none]
  cases hb : lastBytes ws "global.html" with
  | none =>
    rw [hb, Option.map_none] at hget
    have hnothing : indexCopy ws = [] ∧ indexRecords ws = [noGlobalRecord] := by
      simp [indexCopy, indexRecords, hb]
    rw [hnothing.1, hnothing.2]
    exact copyGlobalPage_of_none hs₁ hout hglobal hget
  | some b =>
    rw [hb, Option.map_some] at hget
    have hplace : inDir o [(("index.html" : Text), b)] = [(o ++ [("index.html" : Text)], b)] := by
      simp [inDir, canonicalName_plain (by decide : Text.PlainAscii "index.html")]
    simpa [indexCopy, indexRecords, hb, hplace] using
      copyGlobalPage_of_file hs₁ hout hglobal hindex hget

end Global

/-! ### The whole run -/

/-- The pages of a site, each by its name with the bytes of its page: one per index entry, in
index order, then the Java libraries page. -/
def pageFiles (eng : Engine) (c : eng.Compiled) (index : PageIndex) (files : List SourceFile)
    (javaLinks : List SeeLink) : List (Text × List UInt8) :=
  entryFiles eng c (index.keys.mergeSort Text.le) files index.entries ++
    [(javaLibrariesPage, pageBytes eng c (index.keys.mergeSort Text.le) (.javaLibraries javaLinks))]

/-- The assets copied, each by its name with the bytes of its source. -/
def assetFiles (t : Tree) (cwd : List Text) (picks : List (PurePath × PurePath)) :
    List (Text × List UInt8) :=
  picks.map fun m => (m.2.name, t.fileBytes cwd m.2)

/-- The copies of assets, in the directory at `o`, are the asset files there. -/
theorem copyWrites_eq_inDir (t : Tree) (cwd o : List Text) (picks : List (PurePath × PurePath)) :
    copyWrites t cwd o picks = inDir o (assetFiles t cwd picks) := by
  simp [copyWrites, inDir, assetFiles]

/-- Every file a run writes, by name, in the order it writes them. -/
def siteFiles (eng : Engine) (c : eng.Compiled) (index : PageIndex) (files : List SourceFile)
    (javaLinks : List SeeLink) (t : Tree) (cwd : List Text) (picks : List (PurePath × PurePath)) :
    List (Text × List UInt8) :=
  pageFiles eng c index files javaLinks ++ indexCopy (pageFiles eng c index files javaLinks) ++
    assetFiles t cwd picks

/-- Every path a run returns, in order: a page per index key, the Java libraries page,
`index.html` when `global.html` is a key, then the assets copied. -/
def sitePaths (index : PageIndex) (out : PurePath) (picks : List (PurePath × PurePath)) :
    List PurePath :=
  index.keys.map (fun k => out.join (PurePath.ofText k)) ++
    [out.join (PurePath.ofText javaLibrariesPage)] ++
    (if index.keys.contains "global.html" then [out.join { parts := ["index.html"] }] else []) ++
    picks.map (assetTarget out)

/-- Every record a run logs, in order: one per page written, the warning when `global.html` is
no key, then one per asset copied. -/
def siteRecords (index : PageIndex) (out : PurePath) (picks : List (PurePath × PurePath)) :
    List LogRecord :=
  (index.keys ++ [javaLibrariesPage]).map (fun k => pageRecord (out.join (PurePath.ofText k))) ++
    (if index.keys.contains "global.html" then [] else [noGlobalRecord]) ++
    picks.map copyRecord

section PageNames

variable (eng : Engine) (c : eng.Compiled) (index : PageIndex) (files : List SourceFile)
  (javaLinks : List SeeLink)

/-- The pages are named by the index keys, then the Java libraries page. -/
theorem pageFiles_names :
    (pageFiles eng c index files javaLinks).map (·.1) = index.keys ++ [javaLibrariesPage] := by
  simp [pageFiles, entryFiles, PageIndex.keys, Function.comp_def]

/-- `global.html` is among the pages exactly when it is an index key, as the Java libraries
page has another name. -/
theorem isSome_lastBytes_global :
    (lastBytes (pageFiles eng c index files javaLinks) "global.html").isSome =
      index.keys.contains "global.html" := by
  have hjava : javaLibrariesPage ≠ "global.html" := by decide
  rw [Bool.eq_iff_iff, lastBytes_isSome_iff, pageFiles_names]
  simp [hjava.symm]

/-- `index.html` is returned exactly when `global.html` is an index key. -/
theorem indexCopy_pageFiles (p : PurePath) :
    (indexCopy (pageFiles eng c index files javaLinks)).map (fun _ => p) =
      if index.keys.contains "global.html" then [p] else [] := by
  rw [indexCopy, ← isSome_lastBytes_global eng c index files javaLinks]
  cases lastBytes (pageFiles eng c index files javaLinks) "global.html" <;> simp

theorem indexRecords_pageFiles :
    indexRecords (pageFiles eng c index files javaLinks) =
      if index.keys.contains "global.html" then [] else [noGlobalRecord] := by
  rw [indexRecords, isSome_lastBytes_global]

theorem pageRecords_pageFiles (out : PurePath) :
    (pageFiles eng c index files javaLinks).map (fun w => pageRecord (out.join (PurePath.ofText w.1))) =
      (index.keys ++ [javaLibrariesPage]).map fun k => pageRecord (out.join (PurePath.ofText k)) := by
  rw [← pageFiles_names eng c index files javaLinks, List.map_map]
  rfl

end PageNames

/-- What a run with the template engine `eng` needs to write its whole site: the output
directory is there and empty; no page name holds `/`; every page and the copy of `global.html`
can be written; the template is found, read and compiled to `c`, which renders every page to a
text with a byte form; and the assets can be copied, the output directory and the log file lying
apart from the template directories. -/
structure SiteReady (eng : Engine) (opts : EmitOptions) (index : PageIndex)
    (files : List SourceFile) (javaLinks : List SeeLink) (custom outDir : Text) (s : Session)
    (c : eng.Compiled) (o : List Text) (ms : List (PurePath × PurePath)) : Prop where
  /-- The output directory is a directory. -/
  out_dir : s.tree.isDirAt o = true
  /-- The output directory is empty. -/
  out_empty : s.tree.entries o = []
  /-- No page name holds `/`. -/
  keys_plain : ∀ k ∈ index.keys, Point.char '/' ∉ k
  /-- Every page, `global.html` and `index.html` can be written. -/
  targets : ∀ k ∈ index.keys ++ [javaLibrariesPage, "global.html", "index.html"],
    ∃ L, s.tree.fileTarget s.cwd ((PurePath.ofText outDir).join (PurePath.ofText k)) = .ok L
  /-- The template is found, read and compiled to `c`. -/
  template : loadTemplate eng (templateDirs s.packaged custom) opts.mainTemplate s = .ok c s
  /-- The compiled template renders every page, to a text with a byte form. -/
  texts : ∀ v ∈ index.entries.map (entryView files) ++ [.javaLibraries javaLinks],
    ∃ html bytes, eng.render c (index.keys.mergeSort Text.le) v = .ok html ∧
      Text.encodeUtf8 html = .ok bytes
  /-- The assets are found and can be copied. -/
  assets : AssetsApart opts (templateDirs s.packaged custom) (PurePath.ofText outDir) s o ms

/-- **The run**, step by step: making the output directory changes nothing, then the pages of
the entries, the Java libraries page, the copy of `global.html` and the assets are written in
turn, each from the session the steps before it left. The session left has every record logged
and every file put in place, in the order the run made them. -/
theorem emit_eq {eng : Engine} {opts : EmitOptions} {index : PageIndex} {files : List SourceFile}
    {javaLinks : List SeeLink} {custom outDir : Text} {s : Session} {c : eng.Compiled}
    {o : List Text} {ms : List (PurePath × PurePath)}
    (h : SiteReady eng opts index files javaLinks custom outDir s c o ms) :
    emit eng opts index files javaLinks custom outDir s =
      .ok (sitePaths index (PurePath.ofText outDir) (assetCopies s.tree s.cwd [] ms))
        ((s.logAll (siteRecords index (PurePath.ofText outDir) (assetCopies s.tree s.cwd [] ms))).putFiles
          (inDir o (siteFiles eng c index files javaLinks s.tree s.cwd
            (assetCopies s.tree s.cwd [] ms)))) := by
  obtain ⟨hdir, hempty, hkeys, htargets, htpl, htexts, ha⟩ := h
  have hout := ha.out_at
  have hlog := ha.log_outside
  have hplain : ∀ x ∈ index.entries, PurePath.ofText x.1 = { parts := [x.1] } := fun x hx =>
    ofText_of_fileTarget (hkeys x.1 (List.mem_map_of_mem hx)) hout hdir
      (htargets x.1 (List.mem_append_left _ (List.mem_map_of_mem hx)))
  have hmk : s.tree.makeDirs s.cwd (PurePath.ofText outDir) = .ok s.tree :=
    makeDirs_of_probeDir (probeDir_of_reach hout hdir)
  have hentries := writeEntries_eq hlog hout hempty
    (fun x => writePage eng c (index.keys.mergeSort Text.le) (PurePath.ofText outDir) x.1
      (.group x.1 x.2.name (files.getD x.2.file {}))) (fun _ => rfl) index.entries s
    (Continues.refl s o) hplain
    (fun x hx => htargets x.1 (List.mem_append_left _ (List.mem_map_of_mem hx)))
    (fun x hx => htexts _ (List.mem_append_left _ (List.mem_map_of_mem hx)))
  obtain ⟨jhtml, jb, hjr, hjb⟩ := htexts (.javaLibraries javaLinks) (by simp)
  have hjava := writePage_eq ((Continues.refl s o).afterPages hempty (PurePath.ofText outDir)
      (entryFiles eng c (index.keys.mergeSort Text.le) files index.entries)) hlog hout (by decide)
    (htargets javaLibrariesPage (by simp)) hjr hjb
  have hpages : afterPages o (PurePath.ofText outDir)
      (afterPages o (PurePath.ofText outDir) s
        (entryFiles eng c (index.keys.mergeSort Text.le) files index.entries))
      [(javaLibrariesPage, jb)] =
      afterPages o (PurePath.ofText outDir) s (pageFiles eng c index files javaLinks) := by
    rw [afterPages_append hlog, pageFiles, pageBytes_of_render hjr hjb]
  rw [hpages] at hjava
  have hcopy := copyGlobalPage_eq (pageFiles eng c index files javaLinks) hlog hempty hout
    (htargets "global.html" (by simp)) (htargets "index.html" (by simp))
  have hs₄ := (((Continues.refl s o).afterPages hempty (PurePath.ofText outDir)
    (pageFiles eng c index files javaLinks)).logAll
      (indexRecords (pageFiles eng c index files javaLinks))).putFiles
    (inDir_fresh hempty (indexCopy (pageFiles eng c index files javaLinks)))
  have hassets := copyAssets_of_continues ha hs₄
  simp only [emit, Step.bind_run, Step.get_run, fsStep_eq, hmk, Step.lift_ok, Step.setTree_run,
    htpl, hentries, hjava, hcopy, hassets, Step.pure_run]
  rw [afterCopies, copyWrites_eq_inDir, afterPages, logAll_putFiles_append hlog,
    logAll_putFiles_append hlog, pageRecords_pageFiles, indexRecords_pageFiles]
  simp only [sitePaths, siteRecords, siteFiles, indexCopy_pageFiles, PageIndex.keys, List.map_map,
    Function.comp_def]

/-- When `global.html` was written and no later asset takes either name, the copy of
`global.html` is the last write of both `index.html` and `global.html`. -/
theorem lastBytes_indexCopy {ws as : List (Text × List UInt8)}
    (hg : (lastBytes ws "global.html").isSome)
    (has : ∀ w ∈ as, w.1 ≠ "global.html" ∧ w.1 ≠ "index.html") :
    lastBytes (ws ++ indexCopy ws ++ as) "index.html" =
      lastBytes (ws ++ indexCopy ws ++ as) "global.html" := by
  obtain ⟨b, hb⟩ := Option.isSome_iff_exists.1 hg
  have hnone : ∀ n, (∀ w ∈ as, w.1 ≠ n) → lastBytes as n = none := fun n hn =>
    Option.not_isSome_iff_eq_none.1 fun h => by
      obtain ⟨w, hw, rfl⟩ := List.mem_map.1 ((lastBytes_isSome_iff as n).1 h)
      exact hn w hw rfl
  have hne : ("index.html" : Text) ≠ "global.html" := by decide
  rw [lastBytes_append, lastBytes_append, hnone _ fun w hw => (has w hw).2, lastBytes_append,
    lastBytes_append, hnone _ fun w hw => (has w hw).1]
  simp [indexCopy, hb, lastBytes_singleton, hne]

/-- **Writing a site.** With any template engine, from an empty output directory, with page
names free of `/` that can be written, a template that compiles and renders every page, and the
output directory and the log file, if any, apart from the template directories: the run returns
the path of every write in order, a page per index key, the Java libraries page, `index.html`
exactly when `global.html` is a key, then the assets `copyAssets` copies. It logs a record per
write and the warning when `global.html` is no key. The output directory then holds exactly
those writes, each name its last; so `index.html` holds the bytes of `global.html` when that is
a key and no asset copied takes either name. -/
theorem emit_writes {eng : Engine} {opts : EmitOptions} {index : PageIndex}
    {files : List SourceFile} {javaLinks : List SeeLink} {custom outDir : Text} {s : Session}
    {c : eng.Compiled} {o : List Text} {ms : List (PurePath × PurePath)}
    (h : SiteReady eng opts index files javaLinks custom outDir s c o ms) :
    ∃ s' : Session, emit eng opts index files javaLinks custom outDir s =
        .ok (sitePaths index (PurePath.ofText outDir) (assetCopies s.tree s.cwd [] ms)) s' ∧
      s' = (s.logAll (siteRecords index (PurePath.ofText outDir)
          (assetCopies s.tree s.cwd [] ms))).putFiles
        (inDir o (siteFiles eng c index files javaLinks s.tree s.cwd
          (assetCopies s.tree s.cwd [] ms))) ∧
      (∀ n : Text, n.PlainAscii → s'.tree.get? (o ++ [n]) =
        (lastBytes (siteFiles eng c index files javaLinks s.tree s.cwd
          (assetCopies s.tree s.cwd [] ms)) n).map Node.file) ∧
      (("global.html" : Text) ∈ index.keys →
        (∀ m ∈ assetCopies s.tree s.cwd [] ms, m.2.name ≠ "global.html" ∧ m.2.name ≠ "index.html") →
        s'.tree.get? (o ++ [("index.html" : Text)]) = s'.tree.get? (o ++ [("global.html" : Text)])) := by
  have hlast : ∀ n : Text, n.PlainAscii →
      ((s.logAll (siteRecords index (PurePath.ofText outDir)
        (assetCopies s.tree s.cwd [] ms))).putFiles
          (inDir o (siteFiles eng c index files javaLinks s.tree s.cwd
            (assetCopies s.tree s.cwd [] ms)))).tree.get? (o ++ [n]) =
      (lastBytes (siteFiles eng c index files javaLinks s.tree s.cwd
        (assetCopies s.tree s.cwd [] ms)) n).map Node.file := by
    intro n hn
    rw [Session.putFiles_tree, get?_inDir hn, Session.logAll_get? (h.assets.log_outside.ne n),
      get?_of_entries_nil h.out_empty, Option.or_none]
  refine ⟨_, emit_eq h, rfl, hlast, fun hg hassets => ?_⟩
  have hglobal : (lastBytes (pageFiles eng c index files javaLinks) "global.html").isSome := by
    rw [isSome_lastBytes_global]
    simpa using hg
  have hnames : ∀ w ∈ assetFiles s.tree s.cwd (assetCopies s.tree s.cwd [] ms),
      w.1 ≠ "global.html" ∧ w.1 ≠ "index.html" := by
    intro w hw
    obtain ⟨m, hm, rfl⟩ := List.mem_map.1 hw
    exact hassets m hm
  rw [hlast _ (by decide), hlast _ (by decide), siteFiles, lastBytes_indexCopy hglobal hnames]

/-- **A page that cannot be written stops the run.** When the output directory is there, the
template loads, and the page of the first index entry fails, the run fails with that failure,
in the session the page left: no later page, copy or asset is written. -/
theorem emit_first_page_error {eng : Engine} {opts : EmitOptions} {index : PageIndex}
    {files : List SourceFile} {javaLinks : List SeeLink} {custom outDir : Text} {s s' : Session}
    {c : eng.Compiled} {k : Text} {entry : IndexEntry} {rest : List (Text × IndexEntry)}
    {e : EmitError} (hmk : s.tree.makeDirs s.cwd (PurePath.ofText outDir) = .ok s.tree)
    (htpl : loadTemplate eng (templateDirs s.packaged custom) opts.mainTemplate s = .ok c s)
    (hentries : index.entries = (k, entry) :: rest)
    (hpage : writePage eng c (index.keys.mergeSort Text.le) (PurePath.ofText outDir) k
      (.group k entry.name (files.getD entry.file {})) s = .error e s') :
    emit eng opts index files javaLinks custom outDir s = .error e s' := by
  simp only [emit, Step.bind_run, Step.get_run, fsStep_eq, hmk, Step.lift_ok, Step.setTree_run, htpl,
    hentries, List.mapM_cons, hpage]

/-! ### Templates without markup -/

/-- A text whose first point is no line feed keeps it when its trailing line feeds go. -/
theorem dropTrailingBreaks_head? {c : Point} (hc : c ≠ .char '\n') (t : Text) :
    (dropTrailingBreaks (c :: t)).head? = some c := by
  unfold dropTrailingBreaks
  rw [List.reverse_cons, List.dropWhile_append]
  split
  · simp [hc]
  · simp

/-- The packaged template starts with `<`. -/
theorem packaged_head? : (dropTrailingBreaks (linesText templateLines)).head? = some (.char '<') := by
  obtain ⟨rest, hrest⟩ : ∃ rest, templateLines = "<!DOCTYPE html>" :: rest := ⟨_, rfl⟩
  have hlines : linesText templateLines =
      .char '<' :: Text.ofString ("!DOCTYPE html>\n" ++ String.join (rest.map (· ++ "\n"))) := by
    rw [linesText, hrest, List.map_cons, String.join_cons]
    simp [Text.ofString]
  rw [hlines]
  exact dropTrailingBreaks_head? (by decide) _

/-- A template text that does not start with `<` is not the packaged template. -/
theorem ne_packaged_of_head? {t : Text} (h : (dropTrailingBreaks t).head? ≠ some (.char '<')) :
    (dropTrailingBreaks t == dropTrailingBreaks (linesText templateLines)) = false := by
  rw [beq_eq_false_iff_ne]
  intro heq
  apply h
  rw [heq]
  exact packaged_head?

/-! ### A small site -/

/-- A custom template directory `tpl` holding a page template `x` and `styles.css`, the
packaged one `def` holding `styles.css` too, an empty output directory `out`, and a log file
`run.log` beside them. -/
def smallSite : Session where
  tree := ⟨[(["tpl"], .dir), (["tpl", "main.html.j2"], .file [120]), (["tpl", "styles.css"], .file [1]),
    (["def"], .dir), (["def", "styles.css"], .file [2]), (["out"], .dir), (["run.log"], .file [])]⟩
  cwd := []
  sink := { verbose := true, file := some ["run.log"] }
  packaged := ["def"]

/-- A file documenting a global function and a member of `Foo`: the pages `global.html` and
`Foo.html`. -/
def smallFiles : List SourceFile :=
  [{ path := "a.js", symbols := [{ name := "f", memberof := "global" }, { name := "g", memberof := "Foo" }] }]

/-- The matches of `styles.css` in `tpl`, then in `def`. -/
def smallMatches : List (PurePath × PurePath) :=
  [(PurePath.ofText "tpl", Tree.childPath (PurePath.ofText "tpl") "styles.css"),
    (PurePath.abs ["def"], Tree.childPath (PurePath.abs ["def"]) "styles.css")]

theorem ofSource_x : Template.ofSource "x" = .ok (.text "x") := by
  unfold Template.ofSource
  simp only []
  rw [ne_packaged_of_head? (by decide)]
  rfl

/-- The template of the small site is its custom one, a text without markup. -/
theorem loadTemplate_small :
    loadTemplate builtinEngine (templateDirs smallSite.packaged "tpl") "main.html.j2" smallSite =
      .ok (Template.text "x") smallSite := by
  have hdirs : templateDirs smallSite.packaged "tpl" = [PurePath.ofText "tpl", PurePath.abs ["def"]] := by
    decide
  have hpieces : templatePieces? "main.html.j2" = some [("main.html.j2" : Text)] := by
    decide +kernel
  have hfind : ([PurePath.ofText "tpl", PurePath.abs ["def"]].map fun d =>
      d.join { parts := ["main.html.j2"] }).find? (smallSite.tree.isFile smallSite.cwd ·) =
      some ((PurePath.ofText "tpl").join { parts := ["main.html.j2"] }) := by decide +kernel
  have hread : smallSite.tree.readFile smallSite.cwd ((PurePath.ofText "tpl").join
      { parts := ["main.html.j2"] }) = .ok [120] := by decide +kernel
  have hdecode : Text.decodeUtf8 [120] = .ok "x" := by decide +kernel
  simp only [loadTemplate, hdirs, hpieces, hfind, hread, hdecode, builtinEngine_compile, ofSource_x,
    Step.bind_run, Step.get_run, fsStep_eq, Step.lift_ok]
  rfl

theorem emit_writes_small :
    SiteReady builtinEngine { staticAssets := ["styles.css"] } (PageIndex.build smallFiles) smallFiles []
        "tpl" "out" smallSite (Template.text "x") ["out"] smallMatches ∧
      ∃ s' : Session, emit builtinEngine { staticAssets := ["styles.css"] } (PageIndex.build smallFiles)
          smallFiles [] "tpl" "out" smallSite =
          .ok (sitePaths (PageIndex.build smallFiles) (PurePath.ofText "out")
            (assetCopies smallSite.tree smallSite.cwd [] smallMatches)) s' ∧
        s'.tree.get? ["out", "index.html"] = s'.tree.get? ["out", "global.html"] := by
  have hdirs : templateDirs smallSite.packaged "tpl" = [PurePath.ofText "tpl", PurePath.abs ["def"]] := by
    decide
  have htplDir : smallSite.tree.reach [] (PurePath.ofText "tpl") = .ok ["tpl"] := by decide +kernel
  have hdefDir : smallSite.tree.reach [] (PurePath.abs ["def"]) = .ok ["def"] := by decide +kernel
  have hglob : ∀ d pat, Selector.ofPattern pat = .ok (.named pat false .here) →
      smallSite.tree.probeDir [] d = .ok true →
      smallSite.tree.select [] (.named pat false .here) d = .ok [Tree.childPath d pat] →
      smallSite.tree.glob [] d pat = .ok [Tree.childPath d pat] := fun _ _ hs hd hf =>
    glob_eq_of_select_single hs hd hf
  have hlog : LogOutside ["out"] smallSite.sink := by
    intro lf hlf
    cases (Option.some.inj hlf : (["run.log"] : List Text) = lf)
    decide
  have ha : AssetsApart { staticAssets := ["styles.css"] } (templateDirs smallSite.packaged "tpl")
      (PurePath.ofText "out") smallSite ["out"] smallMatches := by
    rw [hdirs]
    refine ⟨by decide +kernel, hlog, by unfold NoDotDot; decide +kernel, by decide +kernel, ?_,
      by decide +kernel, ?_,
      fun m hm => exists_eq_ok_of_toBool ?_, fun m hm => exists_eq_ok_of_toBool ?_⟩
    · intro d hd L hL
      simp only [List.mem_cons, List.not_mem_nil, or_false] at hd
      rcases hd with rfl | rfl
      · rw [show smallSite.cwd = [] from rfl, htplDir, Except.ok.injEq] at hL
        subst hL
        unfold Apart written
        decide
      · rw [show smallSite.cwd = [] from rfl, hdefDir, Except.ok.injEq] at hL
        subst hL
        unfold Apart written
        decide
    · have g₁ := hglob (PurePath.ofText "tpl") "styles.css" rfl (by decide +kernel) (by decide +kernel)
      have g₂ := hglob (PurePath.abs ["def"]) "styles.css" rfl (by decide +kernel) (by decide +kernel)
      simp only [assetMatches, List.mapM_cons, List.mapM_nil, show smallSite.cwd = [] from rfl, g₁, g₂]
      rfl
    · revert m
      decide +kernel
    · revert m
      decide +kernel
  have h : SiteReady builtinEngine { staticAssets := ["styles.css"] } (PageIndex.build smallFiles)
      smallFiles [] "tpl" "out" smallSite (Template.text "x") ["out"] smallMatches := by
    refine ⟨by decide +kernel, ?_, by decide +kernel, fun k hk => exists_eq_ok_of_toBool ?_,
      loadTemplate_small, fun v _ => ⟨"x", [120], builtinEngine_render _ _ _, ?_⟩, ha⟩
    · rw [entries_eq, show (smallSite.tree.nodes.map Prod.fst).filterMap (entryName ["out"]) = [] by
        decide +kernel, List.mergeSort_nil]
    · revert k
      decide +kernel
    · decide +kernel
  obtain ⟨s', hrun, -, -, hindex⟩ := emit_writes h
  exact ⟨h, s', hrun, hindex (by decide +kernel) (by decide +kernel)⟩

/-- A file documenting a member of a group whose name holds a null character. -/
def nullFiles : List SourceFile :=
  [{ path := "x.js", symbols := [{ name := "f", memberof := "a\x00b" }] }]

/-- The page of a group whose name holds a null character cannot be written: the run stops at
it, before any page is written. -/
theorem emit_null_key :
    emit builtinEngine { staticAssets := ["styles.css"] } (PageIndex.build nullFiles) nullFiles []
        "tpl" "out" smallSite = .error (.fs .nullByte) smallSite := by
  have hmk : smallSite.tree.makeDirs smallSite.cwd (PurePath.ofText "out") = .ok smallSite.tree :=
    makeDirs_of_probeDir (by decide +kernel)
  have hidx : (PageIndex.build nullFiles).entries =
      [(("a\x00b.html" : Text), (⟨"a\x00b", 0⟩ : IndexEntry))] := by
    decide +kernel
  have hwrite : smallSite.tree.writeFile smallSite.cwd
      ((PurePath.ofText "out").join (PurePath.ofText "a\x00b.html")) [] = .error .nullByte := by
    have hft : smallSite.tree.fileTarget smallSite.cwd
        ((PurePath.ofText "out").join (PurePath.ofText "a\x00b.html")) = .error .nullByte := by
      decide +kernel
    simp [writeFile, hft]
  have hpage : ∀ pages v, writePage builtinEngine (Template.text "x") pages (PurePath.ofText "out")
      "a\x00b.html" v smallSite = .error (.fs .nullByte) smallSite := by
    intro pages v
    simp [writePage, writeText, hwrite]
  exact emit_first_page_error hmk loadTemplate_small hidx (hpage _ _)

end Site

end DocPages
