import Mathlib
import Phrasebook.Json.Token
import Phrasebook.Proofs.Text.Encodable

/-! Texts in a JSON document. A body is what stands between the quotes, and it spells one text;
the reader of texts takes exactly the bodies. It reads units first and joins surrogates after that,
while a body names the pairs where they stand: a high surrogate is alone unless a low one follows
it right away. -/

namespace Phrasebook.Json

/-! ### The grammar -/

/-- The hexadecimal digits with their values. -/
def hexDigits : List (Char × Nat) :=
  [('0', 0), ('1', 1), ('2', 2), ('3', 3), ('4', 4), ('5', 5), ('6', 6), ('7', 7), ('8', 8),
    ('9', 9), ('a', 10), ('b', 11), ('c', 12), ('d', 13), ('e', 14), ('f', 15), ('A', 10),
    ('B', 11), ('C', 12), ('D', 13), ('E', 14), ('F', 15)]

/-- The letters that follow a backslash, with what they stand for. -/
def letters : List (Char × Char) :=
  [('"', '"'), ('\\', '\\'), ('/', '/'), ('b', '\x08'), ('f', '\x0c'), ('n', '\n'), ('r', '\r'),
    ('t', '\t')]

/-- An escape of six characters that numbers a unit. -/
inductive UnitEscape : List Char → Nat → Prop
  | mk {a b c d : Char} {w x y z : Nat} (ha : (a, w) ∈ hexDigits) (hb : (b, x) ∈ hexDigits)
      (hc : (c, y) ∈ hexDigits) (hd : (d, z) ∈ hexDigits) :
      UnitEscape ['\\', 'u', a, b, c, d] (((w * 16 + x) * 16 + y) * 16 + z)

def IsHigh (n : Nat) : Prop := 0xD800 ≤ n ∧ n < 0xDC00

def IsLow (n : Nat) : Prop := 0xDC00 ≤ n ∧ n < 0xE000

/-- An escaped low surrogate stands first. -/
def BeginsWithLow (cs : List Char) : Prop :=
  ∃ e n rest, UnitEscape e n ∧ IsLow n ∧ cs = e ++ rest

/-- What may stand between the quotes of a text, with the text that it spells. -/
inductive Body : List Char → Text → Prop
  | nil : Body [] []
  | plain {c : Char} {cs : List Char} {t : Text} (hquote : c ≠ '"') (hescape : c ≠ '\\')
      (hcontrol : 0x20 ≤ c.toNat) (h : Body cs t) : Body (c :: cs) (.ofChar c :: t)
  | letter {l c : Char} {cs : List Char} {t : Text} (hl : (l, c) ∈ letters) (h : Body cs t) :
      Body ('\\' :: l :: cs) (.ofChar c :: t)
  | alone {e cs : List Char} {n : Nat} {t : Text} (he : UnitEscape e n)
      (halone : IsHigh n → ¬BeginsWithLow cs) (h : Body cs t) : Body (e ++ cs) (.ofNat n :: t)
  | pair {e e' cs : List Char} {n n' : Nat} {t : Text} (he : UnitEscape e n)
      (he' : UnitEscape e' n') (hhigh : IsHigh n) (hlow : IsLow n') (h : Body cs t) :
      Body (e ++ (e' ++ cs)) (.ofNat (0x10000 + (n - 0xD800) * 0x400 + (n' - 0xDC00)) :: t)

/-- A text in quotes. -/
def Literal (cs : List Char) (t : Text) : Prop :=
  ∃ body, Body body t ∧ cs = '"' :: body ++ ['"']

/-! ### Escapes -/

theorem digit?_eq_some {c : Char} {n : Nat} :
    Numeral.digit? c = some n ↔ (c, n) ∈ hexDigits := by
  constructor
  · intro h
    have hbound : c.toNat < 103 := by
      have hf : 'f'.val.toNat = 102 ∧ '9'.val.toNat = 57 ∧ 'F'.val.toNat = 70 := by decide
      unfold Numeral.digit? at h
      simp only [Char.le_def, UInt32.le_iff_toNat_le] at h
      rw [Char.toNat]
      split_ifs at h <;> omega
    have hall : ∀ k < 103, ∀ v ∈ Numeral.digit? (Char.ofNat k), (Char.ofNat k, v) ∈ hexDigits := by
      decide
    have hc := hall c.toNat hbound n
    rw [Char.ofNat_toNat] at hc
    exact hc h
  · intro h
    have hall : ∀ p ∈ hexDigits, Numeral.digit? p.1 = some p.2 := by decide
    exact hall _ h

theorem hexUnit?_eq_some {a b c d : Char} {u : CodePoint} :
    hexUnit? a b c d = some u ↔ ∃ n, UnitEscape ['\\', 'u', a, b, c, d] n ∧ u = .ofNat n := by
  constructor
  · intro h
    simp only [hexUnit?, Option.bind_eq_bind, Option.bind_eq_some_iff, Option.pure_def,
      Option.some.injEq, digit?_eq_some] at h
    obtain ⟨w, ha, x, hb, y, hc, z, hd, rfl⟩ := h
    exact ⟨_, .mk ha hb hc hd, rfl⟩
  · rintro ⟨n, ⟨ha, hb, hc, hd⟩, rfl⟩
    simp only [hexUnit?, digit?_eq_some.mpr ha, digit?_eq_some.mpr hb, digit?_eq_some.mpr hc,
      digit?_eq_some.mpr hd, Option.bind_eq_bind, Option.bind_some, Option.pure_def]

theorem escapedUnit?_eq_some {l : Char} {u : CodePoint} :
    escapedUnit? l = some u ↔ ∃ c, (l, c) ∈ letters ∧ u = .ofChar c := by
  constructor
  · intro h
    unfold escapedUnit? at h
    split at h
    case h_9 => exact absurd h (by simp)
    all_goals
      obtain rfl := Option.some.inj h
      exact ⟨_, by simp [letters], rfl⟩
  · rintro ⟨c, hl, rfl⟩
    have hall : ∀ p ∈ letters, escapedUnit? p.1 = some (.ofChar p.2) := by decide
    exact hall _ hl

/-- No letter is one that begins an escape of another kind. -/
theorem ne_of_mem_letters {l c : Char} (h : (l, c) ∈ letters) : l ≠ 'u' := by
  have hall : ∀ p ∈ letters, p.1 ≠ 'u' := by decide
  exact hall _ h

/-- An escape numbers one unit, and it is as long as any other. -/
theorem UnitEscape.unique {e e' cs cs' : List Char} {n n' : Nat} (h : UnitEscape e n)
    (h' : UnitEscape e' n') (heq : e ++ cs = e' ++ cs') : n = n' ∧ cs = cs' := by
  have hvalue {c : Char} {x y : Nat} (hx : (c, x) ∈ hexDigits) (hy : (c, y) ∈ hexDigits) :
      x = y :=
    Option.some.inj ((digit?_eq_some.mpr hx).symm.trans (digit?_eq_some.mpr hy))
  obtain ⟨ha, hb, hc, hd⟩ := h
  obtain ⟨ha', hb', hc', hd'⟩ := h'
  simp only [List.cons_append, List.nil_append, List.cons.injEq, true_and] at heq
  obtain ⟨rfl, rfl, rfl, rfl, rfl⟩ := heq
  rw [hvalue ha ha', hvalue hb hb', hvalue hc hc', hvalue hd hd']
  exact ⟨rfl, rfl⟩

/-! ### Units -/

/-- A body with the units that it spells. -/
inductive Units : List Char → Text → Prop
  | nil : Units [] []
  | plain {c : Char} {cs : List Char} {us : Text} (hquote : c ≠ '"') (hescape : c ≠ '\\')
      (hcontrol : 0x20 ≤ c.toNat) (h : Units cs us) : Units (c :: cs) (.ofChar c :: us)
  | letter {l c : Char} {cs : List Char} {us : Text} (hl : (l, c) ∈ letters) (h : Units cs us) :
      Units ('\\' :: l :: cs) (.ofChar c :: us)
  | unit {e cs : List Char} {n : Nat} {us : Text} (he : UnitEscape e n) (h : Units cs us) :
      Units (e ++ cs) (.ofNat n :: us)

/-- What the reader of texts takes is a body up to the first quote outside an escape. -/
theorem units_of_readUnits {all : List Char} {done units : Text} {cs more : List Char}
    (h : readUnits all done cs = .ok (units, more)) :
    ∃ body us, Units body us ∧ cs = body ++ '"' :: more ∧ units = done.reverse ++ us := by
  fun_induction readUnits all done cs with
  | case2 done rest =>
    obtain ⟨rfl, rfl⟩ := Prod.mk.inj (Except.ok.inj h)
    exact ⟨[], [], .nil, rfl, by simp⟩
  | case5 done h₁ h₂ h₃ h₄ rest unit hunit hrest hquote ih =>
    obtain ⟨n, he, rfl⟩ := hexUnit?_eq_some.mp hunit
    obtain ⟨body, us, hbody, rfl, rfl⟩ := ih h
    exact ⟨_, _, .unit he hbody, rfl, by simp⟩
  | case8 done letter rest _ hu unit hunit hquote ih =>
    obtain ⟨c, hl, rfl⟩ := escapedUnit?_eq_some.mp hunit
    obtain ⟨body, us, hbody, rfl, rfl⟩ := ih h
    exact ⟨_, _, .letter hl hbody, rfl, by simp⟩
  | case11 done c rest hquote hescape hcontrol ih =>
    obtain ⟨body, us, hbody, rfl, rfl⟩ := ih h
    exact ⟨_, _, .plain hquote hescape (Nat.not_lt.mp hcontrol) hbody, rfl, by simp⟩
  | _ => exact absurd h (by simp)

theorem readUnits_of_units {all body more : List Char} {done us : Text} (h : Units body us) :
    readUnits all done (body ++ '"' :: more) = .ok (done.reverse ++ us, more) := by
  induction h generalizing done with
  | nil =>
    rw [List.nil_append, readUnits.eq_def]
    simp
  | plain hquote hescape hcontrol h ih =>
    rw [List.cons_append, readUnits.eq_def]
    dsimp only
    rw [if_neg hquote, if_neg hescape, if_neg (Nat.not_lt.mpr hcontrol), ih]
    simp
  | @letter l c cs us hl h ih =>
    have hu := ne_of_mem_letters hl
    have hunit := escapedUnit?_eq_some.mpr ⟨c, hl, rfl⟩
    have hquote : '\\' ≠ '"' := by decide
    simp [readUnits, hu, hunit, hquote, ih]
  | @unit e cs n us he h ih =>
    obtain ⟨ha, hb, hc, hd⟩ := he
    have hunit := hexUnit?_eq_some.mpr ⟨_, .mk ha hb hc hd, rfl⟩
    have hquote : '\\' ≠ '"' := by decide
    simp [readUnits, hunit, hquote, ih]

/-! ### Surrogates -/

theorem UnitEscape.lt {e : List Char} {n : Nat} (h : UnitEscape e n) : n < 0x10000 := by
  have hall : ∀ p ∈ hexDigits, p.2 < 16 := by decide
  obtain ⟨ha, hb, hc, hd⟩ := h
  have ha := hall _ ha
  have hb := hall _ hb
  have hc := hall _ hc
  have hd := hall _ hd
  dsimp only at ha hb hc hd
  omega

theorem val_ofNat {n : Nat} (h : n < 0x110000) : (CodePoint.ofNat n).val = n :=
  Nat.mod_eq_of_lt h

theorem isHighSurrogate_iff {c : CodePoint} : isHighSurrogate c = true ↔ IsHigh c.val := by
  simp [isHighSurrogate, IsHigh]

theorem isLowSurrogate_iff {c : CodePoint} : isLowSurrogate c = true ↔ IsLow c.val := by
  simp [isLowSurrogate, IsLow]

/-- No character is a surrogate. -/
theorem not_isSurrogate_ofChar (c : Char) :
    ¬IsHigh (CodePoint.ofChar c).val ∧ ¬IsLow (CodePoint.ofChar c).val := by
  have h := CodePoint.isSurrogate_ofChar c
  rw [← Bool.not_eq_true, CodePoint.isSurrogate_iff] at h
  simp only [IsHigh, IsLow]
  omega

theorem joinUnit_alone {c : CodePoint} {t : Text}
    (h : IsHigh c.val → ∀ d ∈ t.head?, ¬IsLow d.val) : joinUnit c t = c :: t := by
  cases t with
  | nil => rfl
  | cons d t =>
    rw [joinUnit, if_neg]
    rw [Bool.and_eq_true, isHighSurrogate_iff, isLowSurrogate_iff]
    rintro ⟨hhigh, hlow⟩
    exact h hhigh d rfl hlow

theorem joinUnit_pair {n n' : Nat} (hhigh : IsHigh n) (hlow : IsLow n') (t : Text) :
    joinUnit (.ofNat n) (.ofNat n' :: t) =
      .ofNat (0x10000 + (n - 0xD800) * 0x400 + (n' - 0xDC00)) :: t := by
  have hn : (CodePoint.ofNat n).val = n := val_ofNat (by have := hhigh.2; omega)
  have hn' : (CodePoint.ofNat n').val = n' := val_ofNat (by have := hlow.2; omega)
  rw [joinUnit, if_pos, hn, hn']
  rw [Bool.and_eq_true, isHighSurrogate_iff, isLowSurrogate_iff, hn, hn']
  exact ⟨hhigh, hlow⟩

theorem joinUnits_cons (u : CodePoint) (us : Text) :
    joinUnits (u :: us) = joinUnit u (joinUnits us) := rfl

/-- A body whose text begins with a low surrogate begins with the escape of it. -/
theorem Body.beginsWithLow {cs : List Char} {t : Text} {d : CodePoint} (h : Body cs t)
    (hd : d ∈ t.head?) (hlow : IsLow d.val) : BeginsWithLow cs := by
  cases h with
  | nil => exact absurd hd (by simp)
  | plain | letter =>
    obtain rfl := Option.some.inj hd
    exact absurd hlow (not_isSurrogate_ofChar _).2
  | alone he _ h =>
    obtain rfl := Option.some.inj hd
    have hn := he.lt
    rw [val_ofNat (by omega)] at hlow
    exact ⟨_, _, _, he, hlow, rfl⟩
  | pair he he' hhigh hlow' h =>
    obtain rfl := Option.some.inj hd
    simp only [IsHigh, IsLow] at hhigh hlow'
    rw [val_ofNat (by omega), IsLow] at hlow
    omega

/-- A body that begins with the escape of a low surrogate spells it, and then the rest. -/
theorem Body.low_inv {e cs : List Char} {n : Nat} {t : Text} (he : UnitEscape e n) (hlow : IsLow n)
    (h : Body (e ++ cs) t) : ∃ t', t = .ofNat n :: t' ∧ Body cs t' := by
  generalize hbody : e ++ cs = body at h
  cases h with
  | nil =>
    obtain ⟨_, _, _, _⟩ := he
    exact absurd hbody (by simp)
  | plain hquote hescape =>
    obtain ⟨_, _, _, _⟩ := he
    exact absurd (List.cons.inj hbody).1.symm hescape
  | letter hl =>
    obtain ⟨_, _, _, _⟩ := he
    exact absurd (List.cons.inj (List.cons.inj hbody).2).1.symm (ne_of_mem_letters hl)
  | alone he' _ h =>
    obtain ⟨rfl, rfl⟩ := he.unique he' hbody
    exact ⟨_, rfl, h⟩
  | pair he' _ hhigh =>
    obtain ⟨rfl, -⟩ := he.unique he' hbody
    simp only [IsHigh, IsLow] at hhigh hlow
    omega

theorem joinUnits_ofChar (c : Char) (us : List CodePoint) :
    joinUnits (.ofChar c :: us) = .ofChar c :: joinUnits us := by
  rw [joinUnits_cons, joinUnit_alone fun hhigh => absurd hhigh (not_isSurrogate_ofChar c).1]

/-- A text that a body spells is joined from the units of the body. -/
theorem Body.exists_units {cs : List Char} {t : Text} (h : Body cs t) :
    ∃ us, Units cs us ∧ t = joinUnits us := by
  induction h with
  | nil => exact ⟨[], .nil, rfl⟩
  | plain hquote hescape hcontrol _ ih =>
    obtain ⟨us, hus, rfl⟩ := ih
    exact ⟨_, .plain hquote hescape hcontrol hus, (joinUnits_ofChar _ us).symm⟩
  | letter hl _ ih =>
    obtain ⟨us, hus, rfl⟩ := ih
    exact ⟨_, .letter hl hus, (joinUnits_ofChar _ us).symm⟩
  | @alone e cs n t he halone h ih =>
    obtain ⟨us, hus, rfl⟩ := ih
    refine ⟨_, .unit he hus, ?_⟩
    have hn := he.lt
    rw [joinUnits_cons, joinUnit_alone]
    intro hhigh d hd hlow
    rw [val_ofNat (by omega)] at hhigh
    exact halone hhigh (h.beginsWithLow hd hlow)
  | @pair e e' cs n n' t he he' hhigh hlow _ ih =>
    obtain ⟨us, hus, rfl⟩ := ih
    refine ⟨_, .unit he (.unit he' hus), ?_⟩
    have hn' := he'.lt
    have hinner : joinUnit (.ofNat n') (joinUnits us) = .ofNat n' :: joinUnits us := by
      apply joinUnit_alone
      rw [val_ofNat (by omega)]
      simp only [IsHigh, IsLow] at hlow ⊢
      omega
    rw [joinUnits_cons, joinUnits_cons, hinner, joinUnit_pair hhigh hlow]

/-- What is joined from the units of a body is the text that it spells. -/
theorem Units.body {cs : List Char} {us : List CodePoint} (h : Units cs us) :
    Body cs (joinUnits us) := by
  induction h with
  | nil => exact .nil
  | plain hquote hescape hcontrol _ ih =>
    rw [joinUnits_ofChar]
    exact .plain hquote hescape hcontrol ih
  | letter hl _ ih =>
    rw [joinUnits_ofChar]
    exact .letter hl ih
  | @unit e cs n us he _ ih =>
    have hn := he.lt
    rw [joinUnits_cons]
    by_cases hpair : IsHigh n ∧ BeginsWithLow cs
    · obtain ⟨hhigh, e', n', rest, he', hlow, rfl⟩ := hpair
      obtain ⟨t, ht, hrest⟩ := ih.low_inv he' hlow
      rw [ht, joinUnit_pair hhigh hlow]
      exact .pair he he' hhigh hlow hrest
    · rw [joinUnit_alone]
      · exact .alone he (fun hhigh hlow => hpair ⟨hhigh, hlow⟩) ih
      · intro hhigh d hd hlow
        rw [val_ofNat (by omega)] at hhigh
        exact hpair ⟨hhigh, ih.beginsWithLow hd hlow⟩

theorem body_iff_units {cs : List Char} {t : Text} :
    Body cs t ↔ ∃ us, Units cs us ∧ t = joinUnits us := by
  constructor
  · exact Body.exists_units
  · rintro ⟨us, hus, rfl⟩
    exact hus.body

/-- The token of a text is read exactly from the rest of a literal. -/
theorem textToken_eq {rest more : List Char} {t : Text} :
    textToken rest = (.text t, more) ↔ ∃ body, Body body t ∧ rest = body ++ '"' :: more := by
  simp only [body_iff_units]
  rw [textToken]
  constructor
  · intro h
    split at h
    next units more' hread =>
      obtain ⟨body, us, hus, rfl, hunits⟩ := units_of_readUnits hread
      obtain ⟨ht, rfl⟩ := Prod.mk.inj h
      rw [hunits] at ht
      exact ⟨body, ⟨us, hus, (Token.text.inj ht).symm⟩, rfl⟩
    next => exact absurd h (by simp)
  · rintro ⟨body, ⟨us, hus, rfl⟩, rfl⟩
    rw [readUnits_of_units hus]
    rfl

end Phrasebook.Json
