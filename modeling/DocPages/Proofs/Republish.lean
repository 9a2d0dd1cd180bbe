import DocPages.Publish
/-!
# Publishing twice

A publish run changes the files it is given: dotted names are split into owner and name, and
every symbol's rendered references are replaced by the HTML of its links. Running the pass
again on what the first run left gives the same links, the same index and the same files, so
publishing is idempotent on its input.

## What is proved

* `Symbol.normalize_normalize` — normalising twice is normalising once: a normalised symbol
  either has an owner or a name that no owner can be split from.
* `Symbol.renderSeeTags_renderSeeTags`, `Symbol.normalize_renderSeeTags_normalize` — rendering
  reads only the owner and the doc comment and replaces what it writes, and it leaves a
  normalised symbol normalised.
* `publishPass_publishPass` — the pass is a projection on lists of files.
* `publish_twice` — a publish run without an output directory never fails, and a second run on
  the files the first left returns exactly the first run's result.
-/

namespace DocPages

/-! ### Normalising is a projection -/

namespace Symbol

theorem normalize_of_dottedOwner?_eq_none {s : Symbol} (h : s.dottedOwner? = none) :
    s.normalize = s := by
  simp [normalize, h]

/-- An owner split from a name is never empty. -/
theorem ne_nil_of_dottedOwner?_eq_some {s : Symbol} {owner rest : Text}
    (h : s.dottedOwner? = some (owner, rest)) : owner ≠ [] := by
  unfold dottedOwner? at h
  split at h
  · split at h
    · split at h
      · cases h
      · cases h
        simp_all
    · cases h
  · cases h

/-- A normalized symbol is not split again: the split gives it an owner, and a symbol with an
owner is never split. -/
theorem dottedOwner?_normalize (s : Symbol) : s.normalize.dottedOwner? = none := by
  cases h : s.dottedOwner? with
  | none => rw [normalize_of_dottedOwner?_eq_none h, h]
  | some p =>
    obtain ⟨owner, rest⟩ := p
    have hn : s.normalize = { s with memberof := owner, name := rest } := by
      simp only [normalize, h]
    rw [hn]
    simp [dottedOwner?, ne_nil_of_dottedOwner?_eq_some h]

@[simp] theorem normalize_normalize (s : Symbol) : s.normalize.normalize = s.normalize :=
  normalize_of_dottedOwner?_eq_none (dottedOwner?_normalize s)

end Symbol

/-! ### Rendering replaces -/

namespace Symbol

@[simp] theorem seeLinks_renderSeeTags (st : LinkSettings) (s : Symbol) :
    (s.renderSeeTags st).seeLinks st = s.seeLinks st := rfl

@[simp] theorem renderSeeTags_renderSeeTags (st : LinkSettings) (s : Symbol) :
    (s.renderSeeTags st).renderSeeTags st = s.renderSeeTags st := rfl

theorem dottedOwner?_renderSeeTags (st : LinkSettings) (s : Symbol) :
    (s.renderSeeTags st).dottedOwner? = s.dottedOwner? := rfl

/-- A rendered normalised symbol is normalised. -/
@[simp] theorem normalize_renderSeeTags_normalize (st : LinkSettings) (s : Symbol) :
    (s.normalize.renderSeeTags st).normalize = s.normalize.renderSeeTags st := by
  apply normalize_of_dottedOwner?_eq_none
  rw [dottedOwner?_renderSeeTags, dottedOwner?_normalize]

end Symbol

/-! ### The pass is a projection -/

section Pass

variable (st : LinkSettings) (files : List SourceFile)

theorem normalizeFiles_publishPass :
    normalizeFiles (publishPass st files).files = (publishPass st files).files := by
  simp [publishPass, normalizeFiles, renderFiles, SourceFile.normalize,
    SourceFile.renderSeeTags]

theorem renderFiles_publishPass :
    renderFiles st (publishPass st files).files = (publishPass st files).files := by
  simp [publishPass, normalizeFiles, renderFiles, SourceFile.renderSeeTags]

/-- The links of a run are the links of the symbols it leaves, in file, symbol and tag order. -/
theorem filesLinks_publishPass :
    filesLinks st (publishPass st files).files = (publishPass st files).links := by
  simp only [publishPass, filesLinks, renderFiles, SourceFile.renderSeeTags, List.flatMap_map,
    ← List.map_flatMap, Symbol.seeLinks_renderSeeTags]

/-- Passing over the files a pass left gives the same files, links and index. -/
theorem publishPass_publishPass :
    publishPass st (publishPass st files).files = publishPass st files := by
  have hn := normalizeFiles_publishPass st files
  have hr := renderFiles_publishPass st files
  have hl := filesLinks_publishPass st files
  have hi : (publishPass st files).index = PageIndex.build (publishPass st files).files := rfl
  have hw : (publishPass st files).written = [] := rfl
  generalize publishPass st files = r at hn hr hl hi hw ⊢
  rw [publishPass, hn, hr, hl, ← hi]
  cases r
  cases hw
  rfl

end Pass

/-! ### Publishing without an output directory -/

/-- Without an output directory a publish run never fails and returns the pass. -/
theorem publish_of_outputDir_eq_nil (eng : Site.Engine) (st : LinkSettings)
    (opts : Site.EmitOptions) {ctx : PublishContext} (hd : ctx.outputDir = [])
    (files : List SourceFile) (σ : Session) :
    ∃ σ', publish eng st opts ctx files σ = .ok (publishPass st files) σ' := by
  obtain ⟨t, o⟩ := ctx
  simp only at hd
  subst hd
  exact ⟨_, rfl⟩

/-- **Publishing is idempotent.** A publish run without an output directory succeeds, with any
template engine, and a second run on the files it left returns exactly its result: the same
links, the same index in the same order, and every symbol as the first run left it. -/
theorem publish_twice (eng : Site.Engine) (st : LinkSettings) (opts : Site.EmitOptions)
    {ctx : PublishContext} (hd : ctx.outputDir = []) (files : List SourceFile) (σ : Session) :
    ∃ r σ₁ σ₂, publish eng st opts ctx files σ = .ok r σ₁ ∧
      publish eng st opts ctx r.files σ₁ = .ok r σ₂ := by
  obtain ⟨σ₁, h₁⟩ := publish_of_outputDir_eq_nil eng st opts hd files σ
  obtain ⟨σ₂, h₂⟩ := publish_of_outputDir_eq_nil eng st opts hd (publishPass st files).files σ₁
  rw [publishPass_publishPass] at h₂
  exact ⟨publishPass st files, σ₁, σ₂, h₁, h₂⟩

/-- A run on a file whose dotted name is split on the first pass. -/
theorem publish_twice_dotted :
    ({} : PublishContext).outputDir = [] ∧
    ∃ r σ₁ σ₂,
      publish Site.builtinEngine {} {} {}
        [{ path := "a.js"
           symbols := [{ name := "Content.edit"
                         doc := { tags := [{ title := "see", desc := "#delete" }] } }] }]
        { tree := {}, cwd := [], packaged := [] } = .ok r σ₁ ∧
      publish Site.builtinEngine {} {} {} r.files σ₁ = .ok r σ₂ :=
  ⟨rfl, publish_twice Site.builtinEngine {} {} rfl _ _⟩

end DocPages
