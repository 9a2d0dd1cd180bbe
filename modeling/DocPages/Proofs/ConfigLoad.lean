import DocPages.Config
import DocPages.Proofs.Traversals
import Mathlib.Data.List.Forall2
/-!
# Loading a configuration text

A configuration file is read as UTF-8, its line breaks unified, and its document loaded. What the
loader reports is decided by that document alone: a blank text and an empty or null document
configure nothing; a mapping gives its settings; any other root that counts as true is refused
as not a mapping; a document that is not well-formed YAML is refused as malformed. Only these
two refusals are the loader's own errors. A document that the YAML loader cannot build for
another reason (a truth value word it does not know, an empty number, nesting too deep) fails
with that loader's own error, and so does a mapping whose setting is an integer too long to
write in decimal.

A root that counts as false configures nothing, whatever it is: zero, false, an empty string and
an empty list are read as an empty mapping rather than refused.

## What is proved

* `probeExists_of_readFile` — a file that can be read is there.
* `toString?_decodeUtf8` — a text decoded from UTF-8, its line breaks unified, is a string.
* `ofValue_ok_or_tooManyDigits` — the settings of any value are read, unless an integer setting
  is too long to write.
* `loadConfig_of_read` — once the file is found and read, loading is the reading of its text.
* `loadConfig_text_outcome` — what loading gives for every text of the file, by its document
  (`ReportsText`, `ReportsDocument`).
* `unknown_truth_word_escapes` — a document that fails to load is not always refused with a
  configuration error.
-/

namespace DocPages

/-- Whether a failure of loading is raised as a configuration error. The others are raised as
the file system, the decoder, the YAML loader or the writing of a number raised them. -/
def ConfigError.isConfigError : ConfigError → Bool
  | .notMapping | .malformed _ _ => true
  | _ => false

deriving instance DecidableEq for Config

/-! ### Reading the file -/

theorem Tree.probeExists_of_readFile {t : Tree} {cwd : List Text} {p : PurePath}
    {bytes : List UInt8} (h : t.readFile cwd p = .ok bytes) : t.probeExists cwd p = .ok true := by
  unfold Tree.readFile at h
  cases hr : t.reach cwd p with
  | error e => simp [hr] at h
  | ok loc =>
    simp [Tree.probeExists, Tree.probe, Tree.stat, hr]

namespace Text

theorem noSurrogate_of_utf8Chars {pos : Nat} {pieces : List Utf8Piece} {t : Text}
    (h : utf8Chars pos pieces = .ok t) : ∀ p ∈ t, p.isSurrogate = false := by
  induction pieces generalizing pos t with
  | nil =>
    simp only [utf8Chars, Except.ok.injEq] at h
    simp [← h]
  | cons piece rest ih =>
    cases piece with
    | char c =>
      rw [utf8Chars] at h
      cases hr : utf8Chars (pos + (String.singleton c).utf8ByteSize) rest with
      | error e =>
        rw [hr] at h
        cases h
      | ok u =>
        rw [hr] at h
        simp only [Except.map, Except.ok.injEq] at h
        subst h
        intro p hp
        rcases List.mem_cons.1 hp with rfl | hp
        · rfl
        · exact ih hr p hp
    | bad bs reason => simp [utf8Chars] at h

/-- Unifying line breaks only brings in line feeds. -/
theorem mem_unifyNewlines {t : Text} {p : Point} (h : p ∈ unifyNewlines t) :
    p ∈ t ∨ p = .char '\n' := by
  fun_induction unifyNewlines t with
  | case1 => simp at h
  | case2 rest ih =>
    rcases List.mem_cons.1 h with rfl | h
    · exact .inr rfl
    · rcases ih h with h | h
      · exact .inl (List.mem_cons_of_mem _ (List.mem_cons_of_mem _ h))
      · exact .inr h
  | case3 rest _ ih =>
    rcases List.mem_cons.1 h with rfl | h
    · exact .inr rfl
    · rcases ih h with h | h
      · exact .inl (List.mem_cons_of_mem _ h)
      · exact .inr h
  | case4 c rest _ _ ih =>
    rcases List.mem_cons.1 h with rfl | h
    · exact .inl List.mem_cons_self
    · rcases ih h with h | h
      · exact .inl (List.mem_cons_of_mem _ h)
      · exact .inr h

theorem toString?_of_noSurrogate {t : Text} (h : ∀ p ∈ t, p.isSurrogate = false) :
    ∃ s, t.toString? = some s := by
  induction t with
  | nil => exact ⟨"", rfl⟩
  | cons p t ih =>
    obtain ⟨s, hs⟩ := ih fun q hq => h q (List.mem_cons_of_mem _ hq)
    cases p with
    | char c =>
      refine ⟨String.ofList (c :: s.toList), ?_⟩
      simp only [toString?, Option.map_eq_some_iff] at hs
      obtain ⟨cs, hcs, rfl⟩ := hs
      simp [toString?, List.mapM_cons, hcs, Point.toChar?]
    | surrogate n => simp [Point.isSurrogate] at h

/-- A text read from UTF-8 bytes, its line breaks unified, holds no surrogate and so is a
string. -/
theorem toString?_decodeUtf8 {bytes : List UInt8} {t : Text} (h : decodeUtf8 bytes = .ok t) :
    ∃ s, (unifyNewlines t).toString? = some s := by
  refine toString?_of_noSurrogate fun p hp => ?_
  rcases mem_unifyNewlines hp with hp | rfl
  · exact noSurrogate_of_utf8Chars h p hp
  · rfl

end Text

/-! ### Reading the settings

The settings of a document fail in one way only: an integer setting with more digits than a
number may be written with. -/

/-- A result whose only failure is an integer too long to write. -/
def DigitsOnly {α : Type} (r : Except ConfigError α) : Prop :=
  ∀ e, r = .error e → e = .numeral .tooManyDigitsToWrite

namespace DigitsOnly

variable {α β : Type}

theorem pure (a : α) : DigitsOnly (Except.ok a : Except ConfigError α) := by
  intro e h
  cases h

theorem bind {x : Except ConfigError α} {f : α → Except ConfigError β} (hx : DigitsOnly x)
    (hf : ∀ a, DigitsOnly (f a)) : DigitsOnly (x >>= f) := by
  intro e h
  cases x with
  | error e' =>
    cases h
    exact hx e rfl
  | ok a => exact hf a e h

theorem ok_or {r : Except ConfigError α} (h : DigitsOnly r) :
    (∃ a, r = .ok a) ∨ r = .error (.numeral .tooManyDigitsToWrite) := by
  cases r with
  | ok a => exact .inl ⟨a, rfl⟩
  | error e => exact .inr (by rw [h e rfl])

end DigitsOnly

namespace Yaml.Document

theorem digitsOnly_settingText (v : Option Value) : DigitsOnly (settingText v) := by
  intro e h
  unfold settingText at h
  split at h
  · cases h
  · -- an integer is written in decimal unless it is too long
    unfold Numeral.intText at h
    split at h
    · simp only [Except.map, Except.mapError] at h
      cases h
      rfl
    · cases h
  all_goals cases h

theorem digitsOnly_itemTexts (vs : List Value) : DigitsOnly (itemTexts vs) := by
  induction vs with
  | nil => exact DigitsOnly.pure _
  | cons v vs ih =>
    unfold itemTexts
    rw [List.filterMapM_cons]
    refine DigitsOnly.bind (digitsOnly_settingText _) fun a => ?_
    cases a with
    | none => exact ih
    | some t => exact DigitsOnly.bind ih fun _ => DigitsOnly.pure _

theorem digitsOnly_settingList (d : Document) (v : Option Value) : DigitsOnly (settingList d v) := by
  unfold settingList
  split
  · exact DigitsOnly.pure _
  · exact digitsOnly_itemTexts _
  · exact digitsOnly_itemTexts _
  · exact DigitsOnly.pure _
  · exact DigitsOnly.pure _

end Yaml.Document

open Yaml.Document in
theorem LinkSettings.digitsOnly_ofValue (d : Yaml.Document) (v : Option Yaml.Value) :
    DigitsOnly (LinkSettings.ofValue d v) := by
  unfold LinkSettings.ofValue
  split
  · refine DigitsOnly.bind (digitsOnly_settingText _) fun _ => ?_
    refine DigitsOnly.bind (digitsOnly_settingText _) fun _ => ?_
    dsimp only
    split
    · exact DigitsOnly.bind (digitsOnly_settingList _ _) fun _ => DigitsOnly.pure _
    · exact DigitsOnly.bind (DigitsOnly.pure _) fun _ => DigitsOnly.pure _
  · exact DigitsOnly.pure _

open Yaml.Document in
/-- The settings of any value are read, unless an integer setting is too long to write. -/
theorem Config.ofValue_ok_or_tooManyDigits (root : PurePath) (d : Yaml.Document) (v : Yaml.Value) :
    (∃ c, Config.ofValue root d v = .ok c) ∨
      Config.ofValue root d v = .error (.numeral .tooManyDigitsToWrite) := by
  refine DigitsOnly.ok_or ?_
  unfold Config.ofValue
  refine DigitsOnly.bind (digitsOnly_settingText _) fun _ => ?_
  refine DigitsOnly.bind (digitsOnly_settingText _) fun _ => ?_
  refine DigitsOnly.bind (LinkSettings.digitsOnly_ofValue _ _) fun _ => ?_
  refine DigitsOnly.bind (digitsOnly_settingList _ _) fun _ => ?_
  refine DigitsOnly.bind (digitsOnly_settingList _ _) fun _ => ?_
  refine DigitsOnly.bind (digitsOnly_settingText _) fun _ => ?_
  dsimp only
  split
  · exact DigitsOnly.bind (digitsOnly_settingList _ _) fun _ => DigitsOnly.pure _
  · exact DigitsOnly.bind (DigitsOnly.pure _) fun _ => DigitsOnly.pure _

/-- An empty mapping configures nothing. -/
theorem Config.ofValue_dict_nil (root : PurePath) (d : Yaml.Document) :
    Config.ofValue root d (.dict []) = .ok { root } := rfl

/-! ### Loading a read file -/

section Load

variable {depth : Nat} {homes : PurePath.Homes} {t : Tree} {cwd : List Text} {arg : Text}
  {file root : PurePath} {bytes : List UInt8} {text : Text}

/-- Once the file is found and read, loading is the reading of its text: nothing for no
document, the settings of a mapping, and a refusal of any other root. -/
theorem loadConfig_of_read (hf : configFile homes t cwd arg = .ok file)
    (hr : Tree.absolute cwd file.parent = .ok root) (hb : t.readFile cwd file = .ok bytes)
    (ht : Text.decodeUtf8 bytes = .ok text) :
    loadConfig depth homes t cwd arg =
      (configDocument (depth + 1) file.name (Text.unifyNewlines text)).bind fun doc =>
        match doc with
        | none => .ok { root }
        | some d =>
          match d.rootValue with
          | .dict es => Config.ofValue root d (.dict es)
          | _ => .error .notMapping := by
  simp only [loadConfig, hf, hr, Tree.probeExists_of_readFile hb, hb, ht, bind, Except.bind,
    Except.mapError, pure, Except.pure, Bool.not_true, Bool.false_eq_true, if_false]
  rfl

/-- How a loading result `r` reports a document loaded as `doc`, for the project at `root` and the
configuration file named `name`. -/
structure ReportsDocument (r : Except ConfigError Config) (root : PurePath) (name : Text)
    (doc : Yaml.LoadResult (Option Yaml.Document)) : Prop where
  /-- A document that is not well-formed YAML is refused as malformed, a configuration error. -/
  malformed : doc = .error .malformed → r = .error (.malformed name .malformed) ∧
    (ConfigError.malformed name .malformed).isConfigError
  /-- A document that fails to load otherwise fails with the loader's error, which is not a
  configuration error. -/
  failed : ∀ e, e ≠ .malformed → doc = .error e → r = .error (.value e) ∧
    (ConfigError.value e).isConfigError = false
  /-- An empty stream configures nothing. -/
  empty : doc = .ok none → r = .ok { root }
  /-- A null root configures nothing. -/
  null : ∀ d, doc = .ok (some d) → d.rootValue = .null → r = .ok { root }
  /-- A mapping gives its settings, which are read unless an integer is too long to write. -/
  mapping : ∀ d es, doc = .ok (some d) → d.rootValue = .dict es →
    r = Config.ofValue root d (.dict es) ∧
      ((∃ c, r = .ok c) ∨ r = .error (.numeral .tooManyDigitsToWrite))
  /-- Any other root that counts as true is refused, a configuration error. -/
  notMapping : ∀ d, doc = .ok (some d) → d.rootValue.truthy → (∀ es, d.rootValue ≠ .dict es) →
    r = .error .notMapping ∧ ConfigError.notMapping.isConfigError
  /-- Any root that counts as false configures nothing, mapping or not: zero, false, an empty
  string and an empty list are read as an empty mapping. -/
  falsy : ∀ d, doc = .ok (some d) → d.rootValue.truthy = false → r = .ok { root }

/-- How a loading result `r` reports the text `text` read from the configuration file named
`name`, its document loaded at `depth` on the stack. -/
structure ReportsText (r : Except ConfigError Config) (root : PurePath) (name : Text) (depth : Nat)
    (text : Text) : Prop where
  /-- A blank text configures nothing. -/
  blank : Text.strip text = [] → r = .ok { root }
  /-- Any other text is a string, whose document decides. -/
  document : Text.strip text ≠ [] → ∃ src, text.toString? = some src ∧
    ReportsDocument r root name (Yaml.Document.load depth src)

/-- What loading gives for the text a configuration file holds. With the file found, a missing
file configures nothing, and a file read as UTF-8 is reported by its text, its line breaks
unified (`ReportsText`): a blank text configures nothing, and otherwise its document decides. Only
a malformed document and a root that is neither a mapping nor counts as false are refused with a
configuration error; a document the loader fails on otherwise fails with the loader's own error,
and a root that counts as false configures nothing. -/
theorem loadConfig_text_outcome (hf : configFile homes t cwd arg = .ok file)
    (hr : Tree.absolute cwd file.parent = .ok root) :
    (t.probeExists cwd file = .ok false → loadConfig depth homes t cwd arg = .ok { root }) ∧
    ∀ bytes text, t.readFile cwd file = .ok bytes → Text.decodeUtf8 bytes = .ok text →
      ReportsText (loadConfig depth homes t cwd arg) root file.name (depth + 2)
        (Text.unifyNewlines text) := by
  refine ⟨fun hm => ?_, fun bytes text hb ht => ⟨fun hblank => ?_, fun hblank => ?_⟩⟩
  · simp [loadConfig, hf, hr, hm]
  · rw [loadConfig_of_read hf hr hb ht]
    simp [configDocument, hblank, Except.bind]
  · obtain ⟨src, hsrc⟩ := Text.toString?_decodeUtf8 ht
    rw [loadConfig_of_read hf hr hb ht]
    simp only [configDocument, List.isEmpty_iff, hblank, if_false, hsrc]
    refine ⟨src, rfl, ⟨fun hl => ?_, fun e he hl => ?_, fun hl => ?_, fun d hl hnull => ?_,
      fun d es hl hd => ?_, fun d hl htrue hnd => ?_, fun d hl hfalse => ?_⟩⟩
    · simp [hl, Except.bind, ConfigError.isConfigError]
    · rw [hl]
      cases e <;> first | exact absurd rfl he | simp [Except.bind, ConfigError.isConfigError]
    · simp [hl, Except.bind]
    · simp [hl, hnull, Except.bind, Yaml.Value.truthy]
    · -- an empty mapping counts as false and configures nothing, as its settings would
      cases es with
      | nil =>
        simp only [hl, hd, Yaml.Value.truthy, List.isEmpty_nil, Bool.not_true, Bool.false_eq_true,
          if_false, Except.bind, Config.ofValue_dict_nil, true_and]
        exact .inl ⟨_, rfl⟩
      | cons e es =>
        simp only [hl, hd, Yaml.Value.truthy, List.isEmpty_cons, Bool.not_false, if_true,
          Except.bind, true_and]
        exact Config.ofValue_ok_or_tooManyDigits root d _
    · -- the root is no mapping (`hnd` discharges the last branch of the reading)
      simp only [hl, htrue, if_true, Except.bind, ConfigError.isConfigError, and_true]
    · simp [hl, hfalse, Except.bind]

end Load

/-! ### A document that fails without a configuration error -/

/-- A working directory `w` whose `.refdoc.yml` holds `src`. -/
def configTree (src : String) : Tree :=
  (({} : Tree).withDirs ["w"]).withFile ["w", ".refdoc.yml"] (Text.stringBytes src)

theorem loadConfig_text_outcome_docs :
    configFile {} (configTree "templates_dir: docs\n") ["w"] "." = .ok (.abs ["w", ".refdoc.yml"]) ∧
      Tree.absolute ["w"] (PurePath.abs ["w", ".refdoc.yml"]).parent = .ok (.abs ["w"]) ∧
      ((configTree "templates_dir: docs\n").probeExists ["w"] (.abs ["w", ".refdoc.yml"]) =
          .ok false → loadConfig 5 {} (configTree "templates_dir: docs\n") ["w"] "." = .ok { root := .abs ["w"] }) ∧
      ∀ bytes text, (configTree "templates_dir: docs\n").readFile ["w"] (.abs ["w", ".refdoc.yml"]) = .ok bytes →
        Text.decodeUtf8 bytes = .ok text →
        ReportsText (loadConfig 5 {} (configTree "templates_dir: docs\n") ["w"] ".") (.abs ["w"])
          (PurePath.abs ["w", ".refdoc.yml"]).name 7 (Text.unifyNewlines text) :=
  ⟨by decide +kernel, by decide +kernel, loadConfig_text_outcome (by decide +kernel) (by decide +kernel)⟩

/-- A document the YAML loader refuses without finding it malformed, here a truth value word it
does not know, makes loading fail with the loader's own error and not with a configuration
error, though the text is not blank and its document fails to load. -/
theorem unknown_truth_word_escapes :
    Text.strip (Text.ofString "!!bool foo\n") ≠ [] ∧
      (Yaml.Document.load 7 "!!bool foo\n").isOk = false ∧
      loadConfig 5 {} (configTree "!!bool foo\n") ["w"] "." = .error (.value (.unknownBool "foo")) ∧
      (ConfigError.value (.unknownBool "foo")).isConfigError = false := by
  decide +kernel

end DocPages
