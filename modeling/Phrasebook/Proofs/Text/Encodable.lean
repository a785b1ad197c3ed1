import Mathlib
import Phrasebook.Proofs.Text.Cut
import Phrasebook.Utf8

/-! Texts that can be encoded. Those are the texts without surrogates; every quoted text is one,
since it is printable, and a filled skeleton is one if its fixed texts and what is put into its
slots are. -/

namespace Phrasebook

namespace CodePoint

theorem isSurrogate_iff (c : CodePoint) :
    c.isSurrogate = true ↔ 0xD800 ≤ c.val ∧ c.val < 0xE000 := by
  simp [isSurrogate]

theorem isSurrogate_ofChar (c : Char) : (ofChar c).isSurrogate = false := by
  rw [← Bool.not_eq_true, isSurrogate_iff]
  have h := c.valid
  simp only [UInt32.isValidChar, Nat.isValidChar] at h
  simp only [ofChar, Char.toNat]
  omega

/-- Exactly the surrogates are no characters. -/
theorem toChar?_eq_none (c : CodePoint) : c.toChar? = none ↔ c.isSurrogate = true := by
  have hbound := c.isLt
  rw [isSurrogate_iff, toChar?]
  split_ifs with h
  · simp only [false_iff]
    simp only [Nat.isValidChar] at h
    omega
  · simp only [true_iff]
    simp only [Nat.isValidChar] at h
    omega

theorem toChar?_ofChar (c : Char) : (ofChar c).toChar? = some c := by
  have hvalid : (ofChar c).val.isValidChar := c.valid
  rw [toChar?, dif_pos hvalid]
  rfl

theorem exists_ofChar {c : CodePoint} (h : c.isSurrogate = false) :
    ∃ ch, c = ofChar ch := by
  have hne : c.toChar? ≠ none := by simp [c.toChar?_eq_none, h]
  rw [toChar?] at hne
  split_ifs at hne with hvalid
  · exact ⟨Char.ofNatAux c.val hvalid, rfl⟩
  · exact absurd rfl hne

end CodePoint

/-- A text without surrogates. -/
def Text.IsEncodable (t : Text) : Prop :=
  ∀ c ∈ t, c.isSurrogate = false

namespace Text

variable {x y : Text}

instance (t : Text) : Decidable t.IsEncodable :=
  inferInstanceAs (Decidable (∀ c ∈ t, c.isSurrogate = false))

@[simp] theorem isEncodable_nil : IsEncodable [] := by
  simp [IsEncodable]

@[simp] theorem isEncodable_cons {c : CodePoint} :
    IsEncodable (c :: x) ↔ c.isSurrogate = false ∧ IsEncodable x := by
  simp [IsEncodable]

@[simp] theorem isEncodable_append : IsEncodable (x ++ y) ↔ IsEncodable x ∧ IsEncodable y :=
  List.forall_mem_append

@[simp] theorem isEncodable_ofChars (cs : List Char) : IsEncodable (ofChars cs) := by
  intro c hc
  obtain ⟨ch, _, rfl⟩ := List.mem_map.mp hc
  exact CodePoint.isSurrogate_ofChar ch

@[simp] theorem isEncodable_ofString (s : String) : IsEncodable (ofString s) :=
  isEncodable_ofChars s.toList

@[simp] theorem isEncodable_flatMap {α : Type} {l : List α} {f : α → Text} :
    IsEncodable (l.flatMap f) ↔ ∀ a ∈ l, IsEncodable (f a) := by
  simp only [IsEncodable, List.mem_flatMap]
  exact ⟨fun h a ha c hc => h c ⟨a, ha, hc⟩, fun h c ⟨a, ha, hc⟩ => h a ha c hc⟩

theorem isEncodable_joined {mark : Text} {parts : List Text} (hmark : IsEncodable mark)
    (h : ∀ part ∈ parts, IsEncodable part) : IsEncodable (joined mark parts) :=
  forall_mem_joined hmark h

/-- The characters of a text, its surrogates left out. -/
def chars (t : Text) : List Char :=
  t.filterMap CodePoint.toChar?

@[simp] theorem chars_nil : chars [] = [] := rfl

@[simp] theorem chars_append : chars (x ++ y) = chars x ++ chars y :=
  List.filterMap_append

@[simp] theorem chars_cons_ofChar (c : Char) : chars (.ofChar c :: x) = c :: chars x :=
  List.filterMap_cons_some (CodePoint.toChar?_ofChar c)

@[simp] theorem chars_ofChars (cs : List Char) : chars (ofChars cs) = cs := by
  induction cs with
  | nil => rfl
  | cons c cs ih => exact (chars_cons_ofChar c).trans (congrArg (c :: ·) ih)

@[simp] theorem chars_ofString (s : String) : chars (ofString s) = s.toList :=
  chars_ofChars s.toList

/-- A text without surrogates is the text of its characters. -/
theorem IsEncodable.toChars?_eq (h : x.IsEncodable) : x.toChars? = some x.chars := by
  induction x with
  | nil => rfl
  | cons c x ih =>
    rw [isEncodable_cons] at h
    obtain ⟨ch, rfl⟩ := CodePoint.exists_ofChar h.1
    have hx := ih h.2
    rw [toChars?] at hx
    simp [toChars?, List.mapM_cons, CodePoint.toChar?_ofChar, hx]

end Text

/-- A text can be encoded exactly if it is without surrogates. -/
theorem Utf8.exists_encode_iff {t : Text} :
    (∃ bytes, Utf8.encode t = .ok bytes) ↔ t.IsEncodable := by
  have hchars : t.toChars? = none ↔ ¬t.IsEncodable := by
    induction t with
    | nil => simp [Text.toChars?]
    | cons c t ih =>
      rw [Text.isEncodable_cons, not_and_or, ← ih, Bool.not_eq_false, ← c.toChar?_eq_none]
      simp only [Text.toChars?, List.mapM_cons]
      cases c.toChar? with
      | none => simp
      | some ch => cases t.mapM CodePoint.toChar? <;> simp
  unfold Utf8.encode
  cases h : t.toChars? with
  | none => simpa using hchars.mp h
  | some cs => simpa [h] using hchars

/-! ### Quoted texts -/

/-- Between two turns membership does not change. -/
theorem Unicode.Property.within_eq {ts : List Nat} {a b n : Nat} (h : ∀ t ∈ ts, t ≤ a ∨ b < t)
    (ha : a ≤ n) (hb : n ≤ b) : within ts n = within ts a := by
  induction ts with
  | nil => rfl
  | cons t ts ih =>
    rw [List.forall_mem_cons] at h
    rw [within, within, ih h.2]
    congr 2
    rw [eq_iff_iff]
    omega

/-- A property that does not change among the surrogates holds of all of them or of none. -/
theorem Unicode.Property.holds_of_isSurrogate {p : Property} {c : CodePoint}
    (hturns : ∀ t ∈ p.turns, t ≤ 0xD800 ∨ 0xDFFF < t) (h : c.isSurrogate = true) :
    p.holds c.val = p.holds 0xD800 := by
  rw [CodePoint.isSurrogate_iff] at h
  exact within_eq hturns h.1 (by omega)

theorem CodePoint.isPrintable_of_isSurrogate {c : CodePoint} (h : c.isSurrogate = true) :
    c.isPrintable = false := by
  rw [isPrintable, Unicode.Property.holds_of_isSurrogate (by decide +kernel) h]
  decide +kernel

theorem CodePoint.isPrintable_of_ascii {c : CodePoint} (h : 0x20 ≤ c.val ∧ c.val < 0x7F) :
    c.isPrintable = true := by
  have hturns : ∀ t ∈ Unicode.unprintable.turns, t ≤ 0x20 ∨ 0x7E < t := by decide +kernel
  have hfirst : Unicode.Property.within Unicode.unprintable.turns 0x20 = false := by
    decide +kernel
  have hwithin := Unicode.Property.within_eq hturns h.1 (by omega)
  rw [isPrintable, Unicode.Property.holds, hwithin, hfirst]
  rfl

/-- Hexadecimal digits are printable. -/
theorem CodePoint.isPrintable_of_mem_toDigits {n : Nat} {ch : Char}
    (h : ch ∈ Nat.toDigits 16 n) : (ofChar ch).isPrintable = true := by
  have hdigit : ∀ w < 16, 0x20 ≤ (ofChar w.digitChar).val ∧ (ofChar w.digitChar).val < 0x7F := by
    decide
  induction n using Nat.strong_induction_on with
  | _ n ih =>
    by_cases hn : n < 16
    · rw [Nat.toDigits_of_lt_base hn, List.mem_singleton] at h
      rw [h]
      exact isPrintable_of_ascii (hdigit n hn)
    · rw [Nat.toDigits_of_base_le (by decide) (by omega), List.mem_append,
        List.mem_singleton] at h
      rcases h with h | rfl
      · exact ih (n / 16) (by omega) h
      · exact isPrintable_of_ascii (hdigit (n % 16) (Nat.mod_lt n (by decide)))

/-- A text of printable code points. -/
def Text.IsPrintable (t : Text) : Prop :=
  ∀ c ∈ t, c.isPrintable = true

theorem Text.IsPrintable.isEncodable {t : Text} (h : t.IsPrintable) : t.IsEncodable := by
  intro c hc
  rw [← Bool.not_eq_true]
  intro hsurrogate
  exact absurd (h c hc) (by simp [CodePoint.isPrintable_of_isSurrogate hsurrogate])

theorem CodePoint.isPrintable_numbered (c : CodePoint) : c.numbered.IsPrintable := by
  have hhex (width n : Nat) : (Text.hex width n).IsPrintable := by
    intro d hd
    rcases List.mem_append.mp hd with hd | hd
    · rw [List.eq_of_mem_replicate hd]
      exact isPrintable_of_ascii (by decide)
    · obtain ⟨ch, hch, rfl⟩ := List.mem_map.mp hd
      exact isPrintable_of_mem_toDigits hch
  have hescape {fixed t : Text} (hfixed : ∀ d ∈ fixed, 0x20 ≤ d.val ∧ d.val < 0x7F)
      (ht : t.IsPrintable) : (fixed ++ t).IsPrintable := by
    rw [Text.IsPrintable, List.forall_mem_append]
    exact ⟨fun d hd => isPrintable_of_ascii (hfixed d hd), ht⟩
  unfold numbered
  split_ifs
  · exact hescape (by decide) (hhex 2 c.val)
  · exact hescape (by decide) (hhex 4 c.val)
  · exact hescape (by decide) (hhex 8 c.val)

theorem Text.isPrintable_escaped {mark : CodePoint} (hmark : mark.isPrintable = true)
    (c : CodePoint) : (escaped mark c).IsPrintable := by
  have hascii {t : Text} (h : ∀ d ∈ t, 0x20 ≤ d.val ∧ d.val < 0x7F) : t.IsPrintable :=
    fun d hd => CodePoint.isPrintable_of_ascii (h d hd)
  unfold escaped
  split_ifs with hsimple htab hline hreturn hprintable
  · have hescape : (CodePoint.ofChar '\\').isPrintable = true :=
      CodePoint.isPrintable_of_ascii (by decide)
    rcases hsimple with rfl | rfl <;> simp [IsPrintable, hescape, hmark]
  · exact hascii (by decide)
  · exact hascii (by decide)
  · exact hascii (by decide)
  · simpa [IsPrintable] using hprintable
  · exact c.isPrintable_numbered

/-- Whatever a text holds, it is printable when quoted. -/
theorem Text.isPrintable_quoted (t : Text) : t.quoted.IsPrintable := by
  have hmark : t.quoteMark.isPrintable = true := by
    unfold quoteMark
    split_ifs <;> exact CodePoint.isPrintable_of_ascii (by decide)
  intro d hd
  rw [quoted, List.cons_append, List.mem_cons, List.mem_append, List.mem_flatMap,
    List.mem_singleton] at hd
  rcases hd with rfl | ⟨c, _, hd⟩ | rfl
  · exact hmark
  · exact isPrintable_escaped hmark c d hd
  · exact hmark

@[simp] theorem Text.isEncodable_quoted (t : Text) : t.quoted.IsEncodable :=
  t.isPrintable_quoted.isEncodable

end Phrasebook
