import Mathlib
import Phrasebook.Proofs.Locale.Code

/-! Emitted names. In a class name the case of the letters marks where the language and where the
region begin, so that the names of plain locales never collide; each name is an identifier. -/

namespace Phrasebook

namespace CodePoint

/-- The ASCII code points that identifiers are made of. -/
def isNameCodePoint (c : CodePoint) : Bool :=
  c.isAsciiLower || c.isAsciiUpper || c.isAsciiDigit || c == Identifier.underscore

theorem underscore_val : Identifier.underscore.val = 0x5F := rfl

theorem isNameCodePoint_iff (c : CodePoint) : c.isNameCodePoint = true ↔
    (0x61 ≤ c.val ∧ c.val ≤ 0x7A) ∨ (0x41 ≤ c.val ∧ c.val ≤ 0x5A) ∨
      (0x30 ≤ c.val ∧ c.val ≤ 0x39) ∨ c.val = 0x5F := by
  have hu : c = Identifier.underscore ↔ c.val = 0x5F := by
    rw [← underscore_val]
    exact ⟨fun h => h ▸ rfl, fun h => val_injective h⟩
  simp only [isNameCodePoint, Bool.or_eq_true, isAsciiLower_iff, isAsciiUpper_iff,
    isAsciiDigit_iff, beq_iff_eq, hu, or_assoc]

theorem isAsciiLower_capital {c : CodePoint} (h : c.isAsciiLower = true) :
    c.capital.isAsciiUpper = true := by
  rw [isAsciiLower_iff] at h
  rw [isAsciiUpper_iff, val_capital, if_pos h]
  omega

theorem capital_inj {c d : CodePoint} (hc : c.isAsciiLower = true) (hd : d.isAsciiLower = true)
    (h : c.capital = d.capital) : c = d := by
  rw [isAsciiLower_iff] at hc hd
  have hv : c.capital.val = d.capital.val := congrArg val h
  rw [val_capital, val_capital, if_pos hc, if_pos hd] at hv
  exact val_injective (by omega)

theorem isAscii_of_isRegional {c : CodePoint} (h : c.isRegional = true) : c.isAscii = true := by
  rw [isRegional_iff] at h
  rw [isAscii_iff]
  omega

theorem capital_of_isRegional {c : CodePoint} (h : c.isRegional = true) : c.capital = c := by
  rw [isRegional_iff] at h
  apply val_injective
  rw [val_capital, if_neg (by omega)]

theorem capital_small {c : CodePoint} (h : c.isRegional = true) : c.small.capital = c := by
  rw [isRegional_iff] at h
  apply val_injective
  rw [val_capital, val_small]
  split_ifs <;> omega

theorem not_isAsciiLower_of_isRegional {c : CodePoint} (h : c.isRegional = true) :
    c.isAsciiLower = false := by
  rw [isRegional_iff] at h
  rw [← Bool.not_eq_true, isAsciiLower_iff]
  omega

theorem isNameCodePoint_small {c : CodePoint} (h : c.isNameCodePoint = true) :
    c.small.isNameCodePoint = true := by
  rw [isNameCodePoint_iff] at h ⊢
  rw [val_small]
  split_ifs <;> omega

theorem isNameCodePoint_capital {c : CodePoint} (h : c.isNameCodePoint = true) :
    c.capital.isNameCodePoint = true := by
  rw [isNameCodePoint_iff] at h ⊢
  rw [val_capital]
  split_ifs <;> omega

theorem isNameCodePoint_of_isAsciiLower {c : CodePoint} (h : c.isAsciiLower = true) :
    c.isNameCodePoint = true := by
  rw [isAsciiLower_iff] at h
  rw [isNameCodePoint_iff]
  omega

theorem isNameCodePoint_of_isRegional {c : CodePoint} (h : c.isRegional = true) :
    c.isNameCodePoint = true := by
  rw [isRegional_iff] at h
  rw [isNameCodePoint_iff]
  omega

end CodePoint

namespace Text

theorem map_eq_self {f : CodePoint → CodePoint} {t : Text} (h : ∀ c ∈ t, f c = c) :
    t.map f = t := by
  conv_rhs => rw [← List.map_id t]
  exact List.map_congr_left h

/-- The title of a plain language code. -/
theorem titled_language {c : CodePoint} {t : Text}
    (h : ∀ d ∈ c :: t, d.isAsciiLower = true) : titled (c :: t) = c.capital :: t := by
  have ht : ∀ d ∈ t, d.isAsciiLower = true := fun d hd => h d (List.mem_cons_of_mem c hd)
  rw [titled_cons (CodePoint.isAscii_of_isAsciiLower (h c (List.mem_cons_self ..)))
      fun d hd => CodePoint.isAscii_of_isAsciiLower (ht d hd),
    map_eq_self fun d hd => CodePoint.small_of_isAsciiLower (ht d hd)]

/-- The title of a plain region code. -/
theorem titled_region {c : CodePoint} {t : Text} (h : ∀ d ∈ c :: t, d.isRegional = true) :
    titled (c :: t) = c :: t.map CodePoint.small := by
  have hc : c.isRegional = true := h c (List.mem_cons_self ..)
  rw [titled_cons (CodePoint.isAscii_of_isRegional hc) fun d hd =>
      CodePoint.isAscii_of_isRegional (h d (List.mem_cons_of_mem c hd)),
    CodePoint.capital_of_isRegional hc]

theorem titled_region_inj {x y : Text} (hx : isPlainRegion x = true)
    (hy : isPlainRegion y = true) (h : titled x = titled y) : x = y := by
  have restored {t : Text} (ht : ∀ c ∈ t, c.isRegional = true) :
      (t.map CodePoint.small).map CodePoint.capital = t := by
    rw [List.map_map]
    exact map_eq_self fun c hc => CodePoint.capital_small (ht c hc)
  obtain ⟨hx, hx'⟩ := (isPlainRegion_iff x).mp hx
  obtain ⟨hy, hy'⟩ := (isPlainRegion_iff y).mp hy
  cases x with
  | nil => exact absurd rfl hx
  | cons c x =>
    cases y with
    | nil => exact absurd rfl hy
    | cons d y =>
      rw [titled_region hx', titled_region hy'] at h
      obtain ⟨rfl, hrest⟩ := List.cons.inj h
      rw [← restored fun e he => hx' e (List.mem_cons_of_mem c he), hrest,
        restored fun e he => hy' e (List.mem_cons_of_mem c he)]

end Text

namespace ClassPrefix

/-- The usual class prefix. -/
def usual : ClassPrefix where
  text := "L10n"
  accepted := by decide +kernel

variable {p : ClassPrefix}

/-- The title of the region, if there is one. -/
def regionTitle (l : Locale) : Text :=
  match l.region with
  | none => []
  | some region => region.titled

theorem classOf_eq (l : Locale) :
    p.classOf l = p.text ++ (l.language.titled ++ regionTitle l) := by
  unfold classOf regionTitle
  cases l.region with
  | none => simp
  | some region => simp

theorem endsRun_regionTitle {l : Locale} (h : l.IsPlain) :
    Text.EndsRun CodePoint.isAsciiLower (regionTitle l) := by
  unfold regionTitle
  cases hr : l.region with
  | none => exact Text.endsRun_nil
  | some region =>
    obtain ⟨hne, hall⟩ := (isPlainRegion_iff region).mp (h.region region hr)
    cases region with
    | nil => exact absurd rfl hne
    | cons c t =>
      show Text.EndsRun _ (Text.titled (c :: t))
      rw [Text.titled_region hall, Text.endsRun_cons]
      exact CodePoint.not_isAsciiLower_of_isRegional (hall c (List.mem_cons_self ..))

theorem regionTitle_inj {a b : Locale} (ha : a.IsPlain) (hb : b.IsPlain)
    (h : regionTitle a = regionTitle b) : a.region = b.region := by
  have titled_ne {x : Text} (hx : isPlainRegion x = true) : x.titled ≠ [] := by
    obtain ⟨hne, hall⟩ := (isPlainRegion_iff x).mp hx
    cases x with
    | nil => exact absurd rfl hne
    | cons c t =>
      rw [Text.titled_region hall]
      exact List.cons_ne_nil _ _
  unfold regionTitle at h
  cases hra : a.region with
  | none =>
    cases hrb : b.region with
    | none => rfl
    | some y =>
      rw [hra, hrb] at h
      exact absurd h.symm (titled_ne (hb.region y hrb))
  | some x =>
    cases hrb : b.region with
    | none =>
      rw [hra, hrb] at h
      exact absurd h (titled_ne (ha.region x hra))
    | some y =>
      rw [hra, hrb] at h
      rw [Text.titled_region_inj (ha.region x hra) (hb.region y hrb) h]

/-- The class name determines a plain locale. -/
theorem classOf_inj {a b : Locale} (ha : a.IsPlain) (hb : b.IsPlain)
    (h : p.classOf a = p.classOf b) : a = b := by
  rw [classOf_eq, classOf_eq] at h
  have hrest := List.append_cancel_left h
  obtain ⟨hna, hla⟩ := (isPlainLanguage_iff a.language).mp ha.language
  obtain ⟨hnb, hlb⟩ := (isPlainLanguage_iff b.language).mp hb.language
  obtain ⟨language, region⟩ := a
  obtain ⟨language', region'⟩ := b
  cases language with
  | nil => exact absurd rfl hna
  | cons c x =>
    cases language' with
    | nil => exact absurd rfl hnb
    | cons d y =>
      rw [Text.titled_language hla, Text.titled_language hlb] at hrest
      obtain ⟨hhead, htail⟩ := List.cons.inj hrest
      obtain rfl : c = d := CodePoint.capital_inj (hla c (List.mem_cons_self ..))
        (hlb d (List.mem_cons_self ..)) hhead
      -- The region's title cannot go on in small letters, so the language ends where it does.
      obtain ⟨rfl, hregion⟩ := Text.run_append_inj
        (fun e he => hla e (List.mem_cons_of_mem c he))
        (fun e he => hlb e (List.mem_cons_of_mem c he))
        (endsRun_regionTitle ha) (endsRun_regionTitle hb) htail
      obtain rfl : region = region' := regionTitle_inj ha hb hregion
      rfl

/-- No class is named like the base. -/
theorem classOf_ne_base {l : Locale} (h : l.IsPlain) : p.classOf l ≠ p.base := by
  obtain ⟨hne, hall⟩ := (isPlainLanguage_iff l.language).mp h.language
  obtain ⟨c, t, hct⟩ := List.exists_cons_of_ne_nil hne
  intro heq
  have hlen := congrArg List.length heq
  rw [classOf_eq, hct, Text.titled_language (hct ▸ hall)] at hlen
  simp [base] at hlen

theorem moduleOf_inj {x y : Text} (h : p.moduleOf x = p.moduleOf y) : x = y :=
  List.append_cancel_left h

theorem moduleOf_ne_lookupModule (x : Text) : p.moduleOf x ≠ p.lookupModule := by
  intro h
  have hlen := congrArg List.length h
  simp only [moduleOf, List.length_append] at hlen
  have : (Text.ofString "_").length = 1 := rfl
  omega

end ClassPrefix

/-! ### Identifiers -/

namespace CodePoint

/-- An ASCII letter. -/
def isLetter (c : CodePoint) : Bool :=
  c.isAsciiLower || c.isAsciiUpper

theorem isLetter_iff (c : CodePoint) : c.isLetter = true ↔
    (0x61 ≤ c.val ∧ c.val ≤ 0x7A) ∨ (0x41 ≤ c.val ∧ c.val ≤ 0x5A) := by
  simp only [isLetter, Bool.or_eq_true, isAsciiLower_iff, isAsciiUpper_iff]

theorem isNameCodePoint_of_isLetter {c : CodePoint} (h : c.isLetter = true) :
    c.isNameCodePoint = true := by
  rw [isLetter_iff] at h
  rw [isNameCodePoint_iff]
  omega

theorem isLetter_small {c : CodePoint} (h : c.isLetter = true) : c.small.isLetter = true := by
  rw [isLetter_iff] at h ⊢
  rw [val_small]
  split_ifs <;> omega

private theorem identifierContinue_holds : ∀ n < 0x80, Unicode.identifierContinue.holds n =
    decide ((0x61 ≤ n ∧ n ≤ 0x7A) ∨ (0x41 ≤ n ∧ n ≤ 0x5A) ∨ (0x30 ≤ n ∧ n ≤ 0x39) ∨ n = 0x5F) := by
  decide +kernel

private theorem identifierStart_holds : ∀ n < 0x80, Unicode.identifierStart.holds n =
    decide ((0x61 ≤ n ∧ n ≤ 0x7A) ∨ (0x41 ≤ n ∧ n ≤ 0x5A)) := by
  decide +kernel

theorem isContinue_eq {c : CodePoint} (h : c.isAscii = true) :
    Identifier.isContinue c = c.isNameCodePoint := by
  rw [Identifier.isContinue, identifierContinue_holds c.val ((isAscii_iff c).mp h),
    Bool.eq_iff_iff, decide_eq_true_iff, isNameCodePoint_iff]

theorem isContinue_of_isNameCodePoint {c : CodePoint} (h : c.isNameCodePoint = true) :
    Identifier.isContinue c = true := by
  rwa [isContinue_eq]
  rw [isNameCodePoint_iff] at h
  rw [isAscii_iff]
  omega

theorem isStart_eq {c : CodePoint} (h : c.isAscii = true) :
    Identifier.isStart c = (c == Identifier.underscore || c.isLetter) := by
  rw [Identifier.isStart, identifierStart_holds c.val ((isAscii_iff c).mp h)]
  congr 1
  rw [Bool.eq_iff_iff, decide_eq_true_iff, isLetter_iff]

theorem isStart_of_isLetter {c : CodePoint} (h : c.isLetter = true) :
    Identifier.isStart c = true := by
  have hascii : c.isAscii = true := by
    rw [isLetter_iff] at h
    rw [isAscii_iff]
    omega
  rw [isStart_eq hascii, h, Bool.or_true]

end CodePoint

namespace Identifier

/-- An identifier in ASCII that is not reserved. -/
structure IsName (t : Text) : Prop where
  identifier : isIdentifier t = true
  unreserved : isKeyword t = false
  ascii : ∀ c ∈ t, c.isNameCodePoint = true

theorem isName_cons {c : CodePoint} {t : Text} (hc : c.isLetter = true)
    (ht : ∀ d ∈ t, d.isNameCodePoint = true) (hkeyword : isKeyword (c :: t) = false) :
    IsName (c :: t) := by
  refine ⟨?_, hkeyword, ?_⟩
  · simp only [isIdentifier, CodePoint.isStart_of_isLetter hc, Bool.true_and, List.all_eq_true]
    exact fun d hd => CodePoint.isContinue_of_isNameCodePoint (ht d hd)
  · rw [List.forall_mem_cons]
    exact ⟨CodePoint.isNameCodePoint_of_isLetter hc, ht⟩

/-- Reserved words have no underscore, and no capital behind their first letter. -/
theorem keyword_shape : ∀ k ∈ keywords, underscore ∉ k ∧
    ∀ c ∈ k.tail, c.isAsciiUpper = false := by
  decide +kernel

theorem isKeyword_of_underscore {t : Text} (h : underscore ∈ t) : isKeyword t = false := by
  rw [← Bool.not_eq_true, isKeyword, List.contains_iff_mem]
  exact fun hk => (keyword_shape t hk).1 h

theorem isKeyword_of_capital {c : CodePoint} {t : Text} (hc : c ∈ t.tail)
    (h : c.isAsciiUpper = true) : isKeyword t = false := by
  rw [← Bool.not_eq_true, isKeyword, List.contains_iff_mem]
  exact fun hk => absurd h (by simp [(keyword_shape t hk).2 c hc])

end Identifier

namespace ClassPrefix

variable (p : ClassPrefix)

/-- A class prefix is a letter and what may follow in a name. -/
theorem text_eq_cons : ∃ c t, p.text = c :: t ∧ c.isLetter = true ∧
    ∀ d ∈ t, d.isNameCodePoint = true := by
  have h := p.accepted
  simp only [Identifier.isClassPrefix, Bool.and_eq_true, List.all_eq_true, Bool.not_eq_true'] at h
  obtain ⟨⟨⟨hascii, hid⟩, _⟩, hstart⟩ := h
  cases htext : p.text with
  | nil => exact absurd hid (by rw [htext]; decide)
  | cons c t =>
    rw [htext] at hascii hid hstart
    simp only [Identifier.isIdentifier, Bool.and_eq_true, List.all_eq_true] at hid
    refine ⟨c, t, rfl, ?_, ?_⟩
    · have hs := hid.1
      rw [CodePoint.isStart_eq (hascii c (List.mem_cons_self ..)), Bool.or_eq_true] at hs
      rcases hs with hs | hs
      · obtain rfl := eq_of_beq hs
        exact absurd hstart (by simp [Text.startsWith])
      · exact hs
    · intro d hd
      rw [← CodePoint.isContinue_eq (hascii d (List.mem_cons_of_mem c hd))]
      exact hid.2 d hd

theorem lookupModule_eq_cons : ∃ c t, p.lookupModule = c :: t ∧ c.isLetter = true ∧
    ∀ d ∈ t, d.isNameCodePoint = true := by
  obtain ⟨c, t, htext, hc, ht⟩ := p.text_eq_cons
  have hascii : ∀ d ∈ p.text, d.isAscii = true := by
    have h := p.accepted
    simp only [Identifier.isClassPrefix, Bool.and_eq_true, List.all_eq_true] at h
    exact h.1.1.1
  refine ⟨c.small, t.map CodePoint.small, ?_, CodePoint.isLetter_small hc, ?_⟩
  · rw [lookupModule, Text.lower_eq_map hascii, htext, List.map_cons]
  · intro d hd
    obtain ⟨e, he, rfl⟩ := List.mem_map.mp hd
    exact CodePoint.isNameCodePoint_small (ht e he)

theorem isNameCodePoint_titles {l : Locale} (h : l.IsPlain) :
    ∀ d ∈ l.language.titled ++ regionTitle l, d.isNameCodePoint = true := by
  obtain ⟨hne, hall⟩ := (isPlainLanguage_iff l.language).mp h.language
  obtain ⟨c, t, hct⟩ := List.exists_cons_of_ne_nil hne
  rw [hct] at hall
  have hname := fun d hd => CodePoint.isNameCodePoint_of_isAsciiLower (hall d hd)
  intro d hd
  rw [hct, Text.titled_language hall, List.mem_append] at hd
  rcases hd with hd | hd
  · rcases List.mem_cons.mp hd with rfl | hd
    · exact CodePoint.isNameCodePoint_capital (hname c (List.mem_cons_self ..))
    · exact hname d (List.mem_cons_of_mem c hd)
  · unfold regionTitle at hd
    split at hd
    next => exact absurd hd (by simp)
    next region hr =>
      obtain ⟨hne', hall'⟩ := (isPlainRegion_iff region).mp (h.region region hr)
      obtain ⟨e, u, rfl⟩ := List.exists_cons_of_ne_nil hne'
      have hname' := fun d hd => CodePoint.isNameCodePoint_of_isRegional (hall' d hd)
      rw [Text.titled_region hall'] at hd
      rcases List.mem_cons.mp hd with rfl | hd
      · exact hname' d (List.mem_cons_self ..)
      · obtain ⟨b, hb, rfl⟩ := List.mem_map.mp hd
        exact CodePoint.isNameCodePoint_small (hname' b (List.mem_cons_of_mem e hb))

/-- The class of a plain locale has a name. -/
theorem isName_classOf {l : Locale} (h : l.IsPlain) : Identifier.IsName (p.classOf l) := by
  obtain ⟨c, t, htext, hc, ht⟩ := p.text_eq_cons
  have hname : ∀ d ∈ t ++ (l.language.titled ++ regionTitle l), d.isNameCodePoint = true := by
    intro d hd
    rcases List.mem_append.mp hd with hd | hd
    · exact ht d hd
    · exact isNameCodePoint_titles h d hd
  rw [classOf_eq, htext]
  apply Identifier.isName_cons hc hname
  obtain ⟨hne, hall⟩ := (isPlainLanguage_iff l.language).mp h.language
  obtain ⟨d, u, hdu⟩ := List.exists_cons_of_ne_nil hne
  rw [hdu] at hall ⊢
  apply Identifier.isKeyword_of_capital (c := d.capital)
  · rw [Text.titled_language hall]
    simp
  · exact CodePoint.isAsciiLower_capital (hall d (List.mem_cons_self ..))

/-- The module of a plain language has a name. -/
theorem isName_moduleOf {language : Text} (h : isPlainLanguage language = true) :
    Identifier.IsName (p.moduleOf language) := by
  obtain ⟨c, t, hmodule, hc, ht⟩ := p.lookupModule_eq_cons
  obtain ⟨_, hall⟩ := (isPlainLanguage_iff language).mp h
  have heq : p.moduleOf language = c :: (t ++ Identifier.underscore :: language) := by
    rw [moduleOf, hmodule]
    simp [Text.ofString, Identifier.underscore]
  rw [heq]
  refine Identifier.isName_cons hc ?_ (Identifier.isKeyword_of_underscore (by simp))
  intro d hd
  rcases List.mem_append.mp hd with hd | hd
  · exact ht d hd
  · rcases List.mem_cons.mp hd with rfl | hd
    · decide
    · exact CodePoint.isNameCodePoint_of_isAsciiLower (hall d hd)

end ClassPrefix

end Phrasebook
