import Mathlib
import DocPages.Fs.Tree
import DocPages.Proofs.Traversals
/-!
# Names that read as plain ASCII

A file name is held as the text its bytes read as, so a text and the file name it stands for
can differ: a surrogate from `U+DC80` to `U+DCFF` stands for one byte, and the bytes of a
character can be spelled by such surrogates. None of this touches names of plain ASCII
characters: a text stands for such a name exactly when it is that name. So `..` is the only
name that climbs out of a directory, and `global.html` the only text that names the file
`global.html`.

Writing a name, a character from `U+0080` on starts with a byte from `0x80` on, and so does a
byte surrogate. Reading bytes back, a byte below `0x80` is the character of its number; a
character begun by a higher byte is `U+0080` or more once it is complete, and bytes that do not
form a character read as surrogates.

## What is proved

* `Text.encodeFrom_eq_asciiBytes` — only a plain ASCII text writes its bytes.
* `Text.eq_asciiBytes_of_decodeName` — only its bytes read back as a plain ASCII text.
* `Tree.canonicalName_eq_iff` — a text stands for a plain ASCII name exactly when it is that
  name; `Tree.canonicalName_eq_dotdot` for `..`.
-/

namespace DocPages

/-! ### Bytes and characters -/

theorem ByteArray.toList_loop (bs : ByteArray) (i : Nat) (r : List UInt8) :
    ByteArray.toList.loop bs i r = r.reverse ++ bs.data.toList.drop i := by
  fun_induction ByteArray.toList.loop bs i r with
  | case1 i r h ih =>
    have hi : i < bs.data.toList.length := by simpa using h
    rw [ih, List.drop_eq_getElem_cons hi]
    simp [ByteArray.get!, h]
  | case2 i r h =>
    rw [List.drop_eq_nil_of_le (by simpa using Nat.le_of_not_lt h)]
    simp

theorem ByteArray.toList_eq (bs : ByteArray) : bs.toList = bs.data.toList := by
  simp [ByteArray.toList, ByteArray.toList_loop]

/-- The character of a number is that number, or the null character when no character has it. -/
theorem Char.toNat_ofNat_cases (n : Nat) :
    (Char.ofNat n).toNat = n ∨ (Char.ofNat n).toNat = 0 := by
  unfold Char.ofNat
  split
  · exact .inl (by simp [Char.ofNatAux, Char.toNat])
  · exact .inr rfl

theorem Char.toNat_ofNat_of_lt {n : Nat} (h : n < 0xD800) : (Char.ofNat n).toNat = n := by
  unfold Char.ofNat
  rw [dif_pos (Or.inl h)]
  simp [Char.ofNatAux, Char.toNat]

namespace Text

theorem charBytes_eq (c : Char) : charBytes c = String.utf8EncodeChar c := by
  simp [charBytes, List.utf8Encode_singleton, ByteArray.toList_eq]

/-- An ASCII character is the one byte of its number. -/
theorem charBytes_of_lt {c : Char} (h : c.toNat < 0x80) : charBytes c = [UInt8.ofNat c.toNat] := by
  rw [charBytes_eq, String.utf8EncodeChar, if_pos (by simpa using Nat.le_of_lt_succ h)]
  rfl

/-- Any other character starts with a byte from `0x80` on. -/
theorem charBytes_of_ge {c : Char} (h : 0x80 ≤ c.toNat) :
    ∃ b rest, charBytes c = b :: rest ∧ 0x80 ≤ b.toNat := by
  have hv : c.val.toNat = c.toNat := rfl
  rw [charBytes_eq, String.utf8EncodeChar, hv, if_neg (by omega)]
  split
  · exact ⟨_, _, rfl, by simp only [UInt8.toNat_ofNat']; omega⟩
  · split <;> exact ⟨_, _, rfl, by simp only [UInt8.toNat_ofNat']; omega⟩

end Text

/-! ### Plain ASCII texts -/

/-- Whether a code point is an ASCII character other than the null character. -/
def Point.plainAscii : Point → Bool
  | .char c => 0 < c.toNat && c.toNat < 0x80
  | .surrogate _ => false

namespace Text

/-- A text of ASCII characters other than the null character. -/
def PlainAscii (t : Text) : Prop := ∀ p ∈ t, p.plainAscii = true

instance (t : Text) : Decidable t.PlainAscii :=
  inferInstanceAs (Decidable (∀ p ∈ t, p.plainAscii = true))

/-- The bytes of a plain ASCII text: one per character. -/
def asciiBytes (t : Text) : List UInt8 :=
  t.map fun p => UInt8.ofNat p.code

theorem asciiBytes_cons (p : Point) (t : Text) :
    asciiBytes (p :: t) = UInt8.ofNat p.code :: asciiBytes t := rfl

theorem plainAscii_cons {p : Point} {t : Text} :
    PlainAscii (p :: t) ↔ p.plainAscii = true ∧ t.PlainAscii := by
  simp [PlainAscii]

theorem exists_char_of_plainAscii {p : Point} (h : p.plainAscii = true) :
    ∃ c, p = .char c ∧ 0 < c.toNat ∧ c.toNat < 0x80 := by
  cases p with
  | char c => exact ⟨c, rfl, by simpa [Point.plainAscii] using h⟩
  | surrogate n => simp [Point.plainAscii] at h

/-! ### Writing a name -/

/-- A plain ASCII text writes one byte per character. -/
theorem encodeFrom_asciiBytes {names : Bool} {pos : Nat} {y : Text} (hy : y.PlainAscii) :
    encodeFrom names pos y = .ok (asciiBytes y) := by
  induction y generalizing pos with
  | nil => rfl
  | cons q y ih =>
    obtain ⟨hq, hy'⟩ := plainAscii_cons.mp hy
    obtain ⟨c, rfl, -, hc⟩ := exists_char_of_plainAscii hq
    simp [encodeFrom, ih hy', charBytes_of_lt hc, asciiBytes_cons, Point.code]

/-- What a name's first code point writes: a byte `b`, more bytes of the same code point, then
the rest. A plain ASCII character writes the one byte of its number, and a byte below `0x80`
comes only from the character of that number. -/
theorem encodeFrom_cons_eq_ok {names : Bool} {pos : Nat} {p : Point} {x : Text}
    {bytes : List UInt8} (h : encodeFrom names pos (p :: x) = .ok bytes) :
    ∃ b more rest, bytes = b :: more ++ rest ∧ encodeFrom names (pos + 1) x = .ok rest ∧
      (p.plainAscii = true → b = UInt8.ofNat p.code ∧ more = []) ∧
      (b.toNat < 0x80 → p = .char (Char.ofNat b.toNat)) := by
  cases p with
  | char c =>
    cases hr : encodeFrom names (pos + 1) x with
    | error e => simp [encodeFrom, hr] at h
    | ok rest =>
      simp only [encodeFrom, hr, Except.map, Except.ok.injEq] at h
      subst h
      by_cases hc : c.toNat < 0x80
      · have hb : (UInt8.ofNat c.toNat).toNat = c.toNat := by
          simp only [UInt8.toNat_ofNat']
          omega
        refine ⟨_, [], rest, by rw [charBytes_of_lt hc]; rfl, rfl, fun _ => ⟨rfl, rfl⟩, fun _ => ?_⟩
        simp only [Point.code, hb, Char.ofNat_toNat]
      · -- a character past `U+007F` starts with a byte from `0x80` on
        obtain ⟨b, more, hcb, hb⟩ := charBytes_of_ge (Nat.le_of_not_lt hc)
        refine ⟨b, more, rest, by rw [hcb], rfl, fun hp => ?_, fun hb' => by omega⟩
        simp only [Point.plainAscii, Bool.and_eq_true, decide_eq_true_eq] at hp
        omega
  | surrogate n =>
    unfold encodeFrom at h
    split at h
    · -- a byte surrogate writes its byte, from `0x80` on
      rename_i hbyte
      cases hr : encodeFrom names (pos + 1) x with
      | error e => simp [hr] at h
      | ok rest =>
        simp only [hr, Except.map, Except.ok.injEq] at h
        subst h
        simp only [Bool.and_eq_true, isByteSurrogate, Point.code] at hbyte
        obtain ⟨-, hlo, hhi⟩ := hbyte
        have hlo := of_decide_eq_true hlo
        have hhi := of_decide_eq_true hhi
        refine ⟨(n - 0xDC00).toUInt8, [], rest, rfl, rfl, ?_, fun hb => ?_⟩
        · simp [Point.plainAscii]
        · simp only [Nat.toUInt8_eq, UInt8.toNat_ofNat'] at hb
          omega
    · cases h

/-- Only a plain ASCII text writes its bytes. -/
theorem encodeFrom_eq_asciiBytes {names : Bool} {pos : Nat} {x y : Text} (hy : y.PlainAscii)
    (h : encodeFrom names pos x = .ok (asciiBytes y)) : x = y := by
  induction x generalizing pos y with
  | nil =>
    cases y with
    | nil => rfl
    | cons q y => simp [encodeFrom, asciiBytes] at h
  | cons p x ih =>
    obtain ⟨b, more, rest, hbytes, hrest, hplain, hfirst⟩ := encodeFrom_cons_eq_ok h
    cases y with
    | nil => simp [asciiBytes] at hbytes
    | cons q y =>
      obtain ⟨hq, hy'⟩ := plainAscii_cons.mp hy
      obtain ⟨d, rfl, -, hd⟩ := exists_char_of_plainAscii hq
      rw [asciiBytes_cons, List.cons_append, List.cons.injEq] at hbytes
      have hb : b.toNat = d.toNat := by
        rw [← hbytes.1]
        simp only [Point.code, UInt8.toNat_ofNat']
        omega
      have hp : p = .char d := by rw [hfirst (by omega), hb, Char.ofNat_toNat]
      subst hp
      rw [(hplain hq).2, List.nil_append] at hbytes
      rw [ih hy' (hbytes.2 ▸ hrest)]

/-! ### Reading bytes back -/

/-- The code points a piece reads as in a file name. -/
def Utf8Piece.namePoints : Utf8Piece → Text
  | .char c => [.char c]
  | .bad bs _ => bs.map fun b => .surrogate (0xDC00 + b.toNat)

theorem decodeName_eq (bytes : List UInt8) :
    decodeName bytes = (utf8Pieces none bytes).flatMap Utf8Piece.namePoints := rfl

/-- A piece whose first code point is no plain ASCII character. -/
def Utf8Piece.Foreign (q : Utf8Piece) : Prop :=
  ∃ p t, q.namePoints = p :: t ∧ p.plainAscii = false

theorem foreign_bad {bs : List UInt8} (r : DecodeReason) (h : bs ≠ []) :
    (Utf8Piece.bad bs r).Foreign := by
  obtain ⟨b, bs, rfl⟩ := List.exists_cons_of_ne_nil h
  exact ⟨_, _, rfl, rfl⟩

theorem foreign_char {n : Nat} (h : 0x80 ≤ n) : (Utf8Piece.char (Char.ofNat n)).Foreign := by
  refine ⟨_, _, rfl, ?_⟩
  rcases Char.toNat_ofNat_cases n with hn | hn
  · simp [Point.plainAscii, hn]
    omega
  · simp [Point.plainAscii, hn]

/-- A partly read character that can only end as a character from `U+0080` on, or as bytes that
read as surrogates: the bits read so far already pass `U+007F` once the owed bytes come. -/
structure Utf8Pending.High (p : Utf8Pending) : Prop where
  taken : p.taken ≠ []
  need : 1 ≤ p.need
  lo : 0x80 ≤ p.lo
  hi : p.hi ≤ 0xBF
  last : p.need = 1 → 2 ≤ p.bits
  more : 2 ≤ p.need → 1 ≤ p.bits ∨ 0x90 ≤ p.lo

theorem Utf8Pending.high_of {need lo hi bits : Nat} {taken : List UInt8} (htaken : taken ≠ [])
    (hneed : 1 ≤ need) (hlo : 0x80 ≤ lo) (hhi : hi ≤ 0xBF) (hlast : need = 1 → 2 ≤ bits)
    (hmore : 2 ≤ need → 1 ≤ bits ∨ 0x90 ≤ lo) : Utf8Pending.High ⟨need, lo, hi, bits, taken⟩ :=
  ⟨htaken, hneed, hlo, hhi, hlast, hmore⟩

/-- A byte from `0x80` on begins a high character or is a piece of its own. -/
theorem utf8Lead_of_ge {b : UInt8} (hb : 0x80 ≤ b.toNat) :
    (∃ p, utf8Lead b = ([], some p) ∧ p.High) ∨ utf8Lead b = ([.bad [b] .invalidStart], none) := by
  unfold utf8Lead
  simp only [Bool.and_eq_true, Bool.or_eq_true, decide_eq_true_eq, beq_iff_eq]
  rw [if_neg (by omega)]
  iterate 7
    split
    · exact .inl ⟨_, rfl, Utf8Pending.high_of (List.cons_ne_nil _ _) (by omega) (by omega) (by omega)
        (fun _ => by omega) (fun _ => by omega)⟩
  exact .inr rfl

/-- From a high state the next piece is foreign, whatever bytes follow. -/
theorem utf8Pieces_of_high {p : Utf8Pending} (hp : p.High) (bs : List UInt8) :
    ∃ q rest, utf8Pieces (some p) bs = q :: rest ∧ q.Foreign := by
  induction bs generalizing p with
  | nil => exact ⟨_, _, rfl, foreign_bad _ hp.taken⟩
  | cons b bs ih =>
    simp only [utf8Pieces, utf8Step]
    split
    · rename_i hin
      simp only [Bool.and_eq_true, decide_eq_true_eq] at hin
      have hlo := hp.lo
      have hhi := hp.hi
      split
      · -- the owed byte completes the character, past `U+007F`
        rename_i hneed
        have hlast := hp.last (by have := hp.need; omega)
        exact ⟨_, _, rfl, foreign_char (by omega)⟩
      · -- the bits read so far, with this byte, already pass `U+007F` once the rest comes
        rename_i hneed
        have hbits : 2 ≤ p.bits * 64 + b.toNat % 64 := by
          rcases hp.more (by omega) with hbits | hlo' <;> omega
        exact ih (Utf8Pending.high_of (by simp) (by omega) (Nat.le_refl _) (Nat.le_refl _)
          (fun _ => hbits) (fun _ => .inl (by omega)))
    · exact ⟨_, _, rfl, foreign_bad _ hp.taken⟩

theorem not_plainAscii_of_foreign {q : Utf8Piece} {rest : List Utf8Piece} (hq : q.Foreign) :
    ¬ Text.PlainAscii ((q :: rest).flatMap Utf8Piece.namePoints) := by
  obtain ⟨p, t, hpt, hp⟩ := hq
  intro h
  have := h p (by simp [hpt])
  rw [hp] at this
  cases this

/-- Only its bytes read back as a plain ASCII text: a byte from `0x80` on begins a piece that
reads as a character past `U+007F` or as surrogates. -/
theorem eq_asciiBytes_of_decodeName {bytes : List UInt8} {y : Text} (hy : y.PlainAscii)
    (h : decodeName bytes = y) : bytes = asciiBytes y := by
  induction bytes generalizing y with
  | nil =>
    subst h
    rfl
  | cons b bs ih =>
    rw [decodeName_eq] at h
    by_cases hb : b.toNat < 0x80
    · have hlead : utf8Lead b = ([.char (Char.ofNat b.toNat)], none) := by
        simp [utf8Lead, hb]
      simp only [utf8Pieces, utf8Step, hlead, List.singleton_append, List.flatMap_cons,
        Utf8Piece.namePoints] at h
      subst h
      obtain ⟨-, hrest⟩ := plainAscii_cons.mp hy
      have hcode : (Char.ofNat b.toNat).toNat = b.toNat := Char.toNat_ofNat_of_lt (by omega)
      rw [asciiBytes_cons, ← ih hrest (decodeName_eq bs).symm]
      simp [Point.code, hcode]
    · rcases utf8Lead_of_ge (Nat.le_of_not_lt hb) with ⟨p, hlead, hp⟩ | hlead
      · obtain ⟨q, rest, hqs, hq⟩ := utf8Pieces_of_high hp bs
        simp only [utf8Pieces, utf8Step, hlead, List.nil_append, hqs] at h
        exact absurd (h ▸ hy) (not_plainAscii_of_foreign hq)
      · simp only [utf8Pieces, utf8Step, hlead, List.singleton_append] at h
        exact absurd (h ▸ hy) (not_plainAscii_of_foreign (foreign_bad _ (List.cons_ne_nil _ _)))

/-- The bytes of a plain ASCII text read back as it. -/
theorem decodeName_asciiBytes {y : Text} (hy : y.PlainAscii) : decodeName (asciiBytes y) = y := by
  induction y with
  | nil => rfl
  | cons q y ih =>
    obtain ⟨hq, hy'⟩ := plainAscii_cons.mp hy
    obtain ⟨c, rfl, -, hc⟩ := exists_char_of_plainAscii hq
    have hb : (UInt8.ofNat c.toNat).toNat = c.toNat := by
      simp only [UInt8.toNat_ofNat']
      omega
    have hlead : utf8Lead (UInt8.ofNat c.toNat) = ([.char c], none) := by
      simp [utf8Lead, hb, hc]
    have hrest := ih hy'
    rw [decodeName_eq] at hrest ⊢
    simp [asciiBytes, Point.code, utf8Pieces, utf8Step, hlead, Utf8Piece.namePoints] at hrest ⊢
    exact hrest

end Text

namespace Tree

/-- **A text stands for a plain ASCII name exactly when it is that name.** -/
theorem canonicalName_eq_iff {x y : Text} (hy : y.PlainAscii) : canonicalName x = y ↔ x = y := by
  constructor
  · unfold canonicalName
    split
    · rename_i bytes hx
      intro h
      rw [Text.eq_asciiBytes_of_decodeName hy h] at hx
      exact Text.encodeFrom_eq_asciiBytes hy hx
    · exact id
  · rintro rfl
    rw [canonicalName, Text.encodeName, Text.encodeFrom_asciiBytes hy]
    exact Text.decodeName_asciiBytes hy

/-- Only `..` climbs out of a directory. -/
theorem canonicalName_eq_dotdot {x : Text} : canonicalName x = ".." ↔ x = ".." :=
  canonicalName_eq_iff (by decide)

end Tree

end DocPages
