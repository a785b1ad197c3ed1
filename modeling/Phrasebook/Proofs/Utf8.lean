import Mathlib
import Phrasebook.Utf8

/-! The decoder takes exactly what the encoder writes. Between the two stand the forms of characters
as the standard has them: the encoder writes one, and a step of the decoder reads one. -/

namespace Phrasebook.Utf8

/-! ### Forms -/

/-- A byte that carries six bits of a character begun before it. -/
def IsTail (b : UInt8) : Prop :=
  0x80 ≤ b.toNat ∧ b.toNat ≤ 0xBF

/-- The bits read so far, with those of a tail behind them. -/
def push (bits : Nat) (b : UInt8) : Nat :=
  bits * 64 + (b.toNat - 0x80)

/-- The forms of a character by its number: a lead that marks how many tails follow, as few of them
as can hold the number, and no form for a surrogate. -/
inductive Form : Nat → Bytes → Prop
  | one {v : Nat} {b : UInt8} (hv : b.toNat = v) (hbounds : v < 0x80) : Form v [b]
  | two {v : Nat} {b t : UInt8} (hb : 0xC0 ≤ b.toNat) (ht : IsTail t)
      (hv : push (b.toNat - 0xC0) t = v) (hbounds : 0x80 ≤ v ∧ v < 0x800) : Form v [b, t]
  | three {v : Nat} {b t u : UInt8} (hb : 0xE0 ≤ b.toNat) (ht : IsTail t) (hu : IsTail u)
      (hv : push (push (b.toNat - 0xE0) t) u = v) (hbounds : 0x800 ≤ v ∧ v < 0x10000)
      (hplain : v < 0xD800 ∨ 0xE000 ≤ v) : Form v [b, t, u]
  | four {v : Nat} {b t u w : UInt8} (hb : 0xF0 ≤ b.toNat) (ht : IsTail t) (hu : IsTail u)
      (hw : IsTail w) (hv : push (push (push (b.toNat - 0xF0) t) u) w = v)
      (hbounds : 0x10000 ≤ v ∧ v < 0x110000) : Form v [b, t, u, w]

theorem push_eq (bits : Nat) (b : UInt8) : push bits b = bits * 64 + (b.toNat - 0x80) := rfl

/-- A tail brings its six bits. -/
theorem push_of_isTail (bits : Nat) {b : UInt8} (hb : IsTail b) :
    ∃ low < 64, b.toNat = 0x80 + low ∧ push bits b = bits * 64 + low :=
  ⟨b.toNat - 0x80, by have := hb.2; omega, by have := hb.1; omega, rfl⟩

theorem push_injective {bits bits' : Nat} {b b' : UInt8} (hb : IsTail b) (hb' : IsTail b')
    (h : push bits b = push bits' b') : bits = bits' ∧ b = b' := by
  obtain ⟨low, hlow, hbyte, hpush⟩ := push_of_isTail bits hb
  obtain ⟨low', hlow', hbyte', hpush'⟩ := push_of_isTail bits' hb'
  exact ⟨by omega, UInt8.toNat_inj.mp (by omega)⟩

/-- The tail with the last six bits of a number. -/
def tailOf (v : Nat) : UInt8 :=
  UInt8.ofNat (v % 64 + 128)

theorem toNat_byte {n : Nat} (hn : n < 256) : (UInt8.ofNat n).toNat = n := by
  rw [UInt8.toNat_ofNat', Nat.mod_eq_of_lt hn]

theorem toNat_tailOf (v : Nat) : (tailOf v).toNat = v % 64 + 128 :=
  toNat_byte (by omega)

theorem isTail_tailOf (v : Nat) : IsTail (tailOf v) := by
  rw [IsTail, toNat_tailOf]
  omega

theorem push_tailOf (v : Nat) : push (v / 64) (tailOf v) = v := by
  obtain ⟨low, hlow, hbyte, hpush⟩ := push_of_isTail (v / 64) (isTail_tailOf v)
  rw [toNat_tailOf] at hbyte
  omega

/-- The encoder writes a character in its form. -/
theorem form_encoded (c : Char) : Form c.val.toNat (String.utf8EncodeChar c) := by
  have hvalid : c.val.toNat.isValidChar := c.valid
  simp only [Nat.isValidChar] at hvalid
  unfold String.utf8EncodeChar
  dsimp only
  generalize c.val.toNat = v at *
  split_ifs
  · exact .one (toNat_byte (by omega)) (by omega)
  · have hlead : (UInt8.ofNat (v / 64 % 32 + 192)).toNat = v / 64 + 192 := by
      rw [toNat_byte (by omega)]
      omega
    refine .two (t := tailOf v) ?_ (isTail_tailOf _) ?_ (by omega)
    · rw [hlead]
      omega
    · rw [hlead, Nat.add_sub_cancel, push_tailOf]
  · have hlead : (UInt8.ofNat (v / 4096 % 16 + 224)).toNat = v / 64 / 64 + 224 := by
      rw [toNat_byte (by omega)]
      omega
    refine .three (t := tailOf (v / 64)) (u := tailOf v) ?_ (isTail_tailOf _) (isTail_tailOf _) ?_
      (by omega) (by omega)
    · rw [hlead]
      omega
    · rw [hlead, Nat.add_sub_cancel, push_tailOf, push_tailOf]
  · have hlead : (UInt8.ofNat (v / 262144 % 8 + 240)).toNat = v / 64 / 64 / 64 + 240 := by
      rw [toNat_byte (by omega)]
      omega
    have hmiddle : v / 4096 = v / 64 / 64 := by omega
    rw [hmiddle]
    refine .four (t := tailOf (v / 64 / 64)) (u := tailOf (v / 64)) (w := tailOf v) ?_
      (isTail_tailOf _) (isTail_tailOf _) (isTail_tailOf _) ?_ (by omega)
    · rw [hlead]
      omega
    · rw [hlead, Nat.add_sub_cancel, push_tailOf, push_tailOf, push_tailOf]

/-- A number has one form. -/
theorem Form.unique {v : Nat} {bs bs' : Bytes} (h : Form v bs) (h' : Form v bs') : bs = bs' := by
  have hlead {n : Nat} {b b' : UInt8} (hb : n ≤ b.toNat) (hb' : n ≤ b'.toNat)
      (hbits : b.toNat - n = b'.toNat - n) : b = b' := UInt8.toNat_inj.mp (by omega)
  cases h with
  | one hv =>
    cases h' with
    | one hv' => rw [UInt8.toNat_inj.mp (hv.trans hv'.symm)]
    | _ => omega
  | two hb ht hv =>
    cases h' with
    | two hb' ht' hv' =>
      obtain ⟨hbits, rfl⟩ := push_injective ht ht' (hv.trans hv'.symm)
      rw [hlead hb hb' hbits]
    | _ => omega
  | three hb ht hu hv =>
    cases h' with
    | three hb' ht' hu' hv' =>
      obtain ⟨hmiddle, rfl⟩ := push_injective hu hu' (hv.trans hv'.symm)
      obtain ⟨hbits, rfl⟩ := push_injective ht ht' hmiddle
      rw [hlead hb hb' hbits]
    | _ => omega
  | four hb ht hu hw hv =>
    cases h' with
    | four hb' ht' hu' hw' hv' =>
      obtain ⟨hlast, rfl⟩ := push_injective hw hw' (hv.trans hv'.symm)
      obtain ⟨hmiddle, rfl⟩ := push_injective hu hu' hlast
      obtain ⟨hbits, rfl⟩ := push_injective ht ht' hmiddle
      rw [hlead hb hb' hbits]
    | _ => omega

theorem form_iff {c : Char} {bs : Bytes} :
    Form c.val.toNat bs ↔ String.utf8EncodeChar c = bs :=
  ⟨fun h => (form_encoded c).unique h, fun h => h ▸ form_encoded c⟩

/-- A number that has a form is that of a character. -/
theorem Form.isValidChar {v : Nat} {bs : Bytes} (h : Form v bs) : v.isValidChar := by
  cases h <;> simp only [Nat.isValidChar] <;> omega

/-! ### The decoder -/

section Leads

variable {b : UInt8}

theorem ofByte?_one (h : b.toNat < 0x80) : Lead.ofByte? b = some ⟨0, 0x80, 0xBF, b.toNat⟩ := by
  rw [Lead.ofByte?, if_pos (UInt8.lt_iff_toNat_lt.mpr h)]

theorem ofByte?_two (h : 0xC2 ≤ b.toNat) (h' : b.toNat < 0xE0) :
    Lead.ofByte? b = some ⟨1, 0x80, 0xBF, b.toNat - 0xC0⟩ := by
  simp only [Lead.ofByte?, UInt8.lt_iff_toNat_lt, UInt8.toNat_ofNat]
  rw [if_neg (by omega), if_neg (by omega), if_pos (by omega)]

theorem ofByte?_three (h : 0xE0 ≤ b.toNat) (h' : b.toNat < 0xF0) :
    Lead.ofByte? b = some ⟨2, if b.toNat = 0xE0 then 0xA0 else 0x80,
      if b.toNat = 0xED then 0x9F else 0xBF, b.toNat - 0xE0⟩ := by
  simp only [Lead.ofByte?, UInt8.lt_iff_toNat_lt, ← UInt8.toNat_inj, UInt8.toNat_ofNat]
  rw [if_neg (by omega), if_neg (by omega), if_neg (by omega)]
  by_cases hlow : b.toNat = 0xE0
  · simp [hlow]
  by_cases hhigh : b.toNat = 0xED
  · simp [hhigh]
  · simp [hlow, hhigh, h']

theorem ofByte?_four (h : 0xF0 ≤ b.toNat) (h' : b.toNat ≤ 0xF4) :
    Lead.ofByte? b = some ⟨3, if b.toNat = 0xF0 then 0x90 else 0x80,
      if b.toNat = 0xF4 then 0x8F else 0xBF, b.toNat - 0xF0⟩ := by
  simp only [Lead.ofByte?, UInt8.lt_iff_toNat_lt, ← UInt8.toNat_inj, UInt8.toNat_ofNat]
  rw [if_neg (by omega), if_neg (by omega), if_neg (by omega), if_neg (by omega),
    if_neg (by omega), if_neg (by omega)]
  by_cases hlow : b.toNat = 0xF0
  · simp [hlow]
  by_cases hhigh : b.toNat = 0xF4
  · simp [hhigh]
  · have hbelow : b.toNat < 0xF4 := by omega
    simp [hlow, hhigh, hbelow]

theorem ofByte?_none (h : 0x80 ≤ b.toNat ∧ b.toNat < 0xC2 ∨ 0xF4 < b.toNat) :
    Lead.ofByte? b = none := by
  simp only [Lead.ofByte?, UInt8.lt_iff_toNat_lt, ← UInt8.toNat_inj, UInt8.toNat_ofNat]
  rcases h with ⟨h, h'⟩ | h
  · rw [if_neg (by omega), if_pos (by omega)]
  · rw [if_neg (by omega), if_neg (by omega), if_neg (by omega), if_neg (by omega),
      if_neg (by omega), if_neg (by omega), if_neg (by omega), if_neg (by omega),
      if_neg (by omega)]

end Leads

/-- Bytes that may follow a lead: tails, the first of them within the lead's bounds. -/
def AreTails (low high : UInt8) : Bytes → Prop
  | [] => True
  | b :: bs => (low.toNat ≤ b.toNat ∧ b.toNat ≤ high.toNat) ∧ ∀ t ∈ bs, IsTail t

theorem areTails_usual {bs : Bytes} : AreTails 0x80 0xBF bs ↔ ∀ t ∈ bs, IsTail t := by
  cases bs <;> simp [AreTails, IsTail]

/-- What is owed is read if the next bytes are tails, whatever follows them. -/
theorem readTails_eq_char {owed : Nat} {low high : UInt8} {bits seen : Nat} {bs : Bytes} {c : Char}
    {n : Nat} : readTails owed low high bits seen bs = .char c n ↔
      ∃ tails rest, bs = tails ++ rest ∧ tails.length = owed ∧ AreTails low high tails ∧
        n = seen + owed ∧ c = Char.ofNat (tails.foldl push bits) := by
  induction owed generalizing low high bits seen bs with
  | zero =>
    rw [readTails, Step.char.injEq]
    constructor
    · rintro ⟨rfl, rfl⟩
      exact ⟨[], bs, rfl, rfl, trivial, rfl, rfl⟩
    · rintro ⟨tails, rest, _, hlength, _, rfl, rfl⟩
      obtain rfl := List.length_eq_zero_iff.mp hlength
      exact ⟨rfl, rfl⟩
  | succ owed ih =>
    cases bs with
    | nil =>
      simp only [readTails, reduceCtorEq, false_iff, not_exists, not_and]
      intro tails rest hbs hlength
      obtain ⟨rfl, _⟩ := List.append_eq_nil_iff.mp hbs.symm
      exact absurd hlength (by simp)
    | cons b bs =>
      simp only [readTails, UInt8.le_iff_toNat_le]
      split_ifs with hb
      · rw [ih]
        constructor
        · rintro ⟨tails, rest, rfl, hlength, htails, rfl, rfl⟩
          exact ⟨b :: tails, rest, rfl, by simp [hlength], ⟨hb, areTails_usual.mp htails⟩,
            by omega, by rw [List.foldl_cons, push_eq]⟩
        · rintro ⟨tails, rest, hbs, hlength, htails, rfl, rfl⟩
          cases tails with
          | nil => exact absurd hlength (by simp)
          | cons b' tails =>
            obtain ⟨rfl, rfl⟩ := List.cons.inj hbs
            exact ⟨tails, rest, rfl, by simpa using hlength, areTails_usual.mpr htails.2,
              by omega, by rw [List.foldl_cons, push_eq]⟩
      · simp only [false_iff, not_exists, not_and]
        intro tails rest hbs hlength htails
        cases tails with
        | nil => exact absurd hlength (by simp)
        | cons b' tails =>
          obtain ⟨rfl, _⟩ := List.cons.inj hbs
          exact absurd htails.1 hb

section Bounds

variable {b t : UInt8} {tails : Bytes}

/-- The narrower bounds after a lead of two tails keep out what fewer bytes can hold, and the
surrogates. -/
theorem areTails_three :
    AreTails (if b.toNat = 0xE0 then 0xA0 else 0x80) (if b.toNat = 0xED then 0x9F else 0xBF)
      (t :: tails) ↔ (IsTail t ∧ (b.toNat = 0xE0 → 0xA0 ≤ t.toNat) ∧
        (b.toNat = 0xED → t.toNat ≤ 0x9F)) ∧ ∀ u ∈ tails, IsTail u := by
  rw [AreTails, IsTail]
  split_ifs <;> simp only [UInt8.toNat_ofNat] <;> refine and_congr_left' ?_ <;> omega

/-- The narrower bounds after a lead of three tails keep out what fewer bytes can hold, and what
lies behind the code space. -/
theorem areTails_four :
    AreTails (if b.toNat = 0xF0 then 0x90 else 0x80) (if b.toNat = 0xF4 then 0x8F else 0xBF)
      (t :: tails) ↔ (IsTail t ∧ (b.toNat = 0xF0 → 0x90 ≤ t.toNat) ∧
        (b.toNat = 0xF4 → t.toNat ≤ 0x8F)) ∧ ∀ u ∈ tails, IsTail u := by
  rw [AreTails, IsTail]
  split_ifs <;> simp only [UInt8.toNat_ofNat] <;> refine and_congr_left' ?_ <;> omega

end Bounds

/-- The tails that a lead announces make a form with it. -/
theorem form_of_lead {b : UInt8} {l : Lead} {tails : Bytes} (h : Lead.ofByte? b = some l)
    (hlength : tails.length = l.tails) (htails : AreTails l.low l.high tails) :
    Form (tails.foldl push l.bits) (b :: tails) := by
  by_cases hnone : 0x80 ≤ b.toNat ∧ b.toNat < 0xC2 ∨ 0xF4 < b.toNat
  · exact absurd (h.symm.trans (ofByte?_none hnone)) (by simp)
  rcases Nat.lt_or_ge b.toNat 0x80 with hone | hone
  · obtain rfl := Option.some.inj (h.symm.trans (ofByte?_one hone))
    obtain rfl := List.length_eq_zero_iff.mp hlength
    exact .one rfl hone
  rcases Nat.lt_or_ge b.toNat 0xE0 with htwo | htwo
  · obtain rfl := Option.some.inj (h.symm.trans (ofByte?_two (by omega) htwo))
    obtain ⟨t, rfl⟩ := List.length_eq_one_iff.mp hlength
    have ht : IsTail t := by simpa using areTails_usual.mp htails
    obtain ⟨low, hlow, -, hpush⟩ := push_of_isTail (b.toNat - 0xC0) ht
    exact .two (by omega) ht rfl (by dsimp only [List.foldl_cons, List.foldl_nil]; omega)
  rcases Nat.lt_or_ge b.toNat 0xF0 with hthree | hthree
  · obtain rfl := Option.some.inj (h.symm.trans (ofByte?_three htwo hthree))
    obtain ⟨t, u, rfl⟩ := List.length_eq_two.mp hlength
    obtain ⟨⟨ht, hlow, hhigh⟩, hu⟩ := areTails_three.mp htails
    rw [List.forall_mem_singleton] at hu
    obtain ⟨bits₁, hbits₁, hbyte₁, hpush₁⟩ := push_of_isTail (b.toNat - 0xE0) ht
    obtain ⟨bits₂, hbits₂, -, hpush₂⟩ := push_of_isTail (push (b.toNat - 0xE0) t) hu
    refine .three htwo ht hu rfl ?_ ?_
    all_goals
      dsimp only [List.foldl_cons, List.foldl_nil]
      omega
  · obtain rfl := Option.some.inj (h.symm.trans (ofByte?_four hthree (by omega)))
    obtain ⟨t, u, w, rfl⟩ := List.length_eq_three.mp hlength
    obtain ⟨⟨ht, hlow, hhigh⟩, hmore⟩ := areTails_four.mp htails
    rw [List.forall_mem_cons, List.forall_mem_singleton] at hmore
    obtain ⟨bits₁, hbits₁, hbyte₁, hpush₁⟩ := push_of_isTail (b.toNat - 0xF0) ht
    obtain ⟨bits₂, hbits₂, -, hpush₂⟩ := push_of_isTail (push (b.toNat - 0xF0) t) hmore.1
    obtain ⟨bits₃, hbits₃, -, hpush₃⟩ :=
      push_of_isTail (push (push (b.toNat - 0xF0) t) u) hmore.2
    refine .four hthree ht hmore.1 hmore.2 rfl ?_
    dsimp only [List.foldl_cons, List.foldl_nil]
    omega

/-- The first byte of a form announces the others. -/
theorem Form.lead {v : Nat} {b : UInt8} {tails : Bytes} (h : Form v (b :: tails)) :
    ∃ l, Lead.ofByte? b = some l ∧ tails.length = l.tails ∧ AreTails l.low l.high tails ∧
      tails.foldl push l.bits = v := by
  cases h with
  | one hv hbounds => exact ⟨_, ofByte?_one (by omega), rfl, trivial, hv⟩
  | @two _ t hb ht hv hbounds =>
    obtain ⟨low, hlow, -, hpush⟩ := push_of_isTail (b.toNat - 0xC0) ht
    refine ⟨_, ofByte?_two (by omega) (by omega), rfl, areTails_usual.mpr (by simpa using ht), hv⟩
  | @three _ t u hb ht hu hv hbounds hplain =>
    obtain ⟨bits₁, hbits₁, hbyte₁, hpush₁⟩ := push_of_isTail (b.toNat - 0xE0) ht
    obtain ⟨bits₂, hbits₂, -, hpush₂⟩ := push_of_isTail (push (b.toNat - 0xE0) t) hu
    refine ⟨_, ofByte?_three hb (by omega), rfl, areTails_three.mpr ⟨⟨ht, ?_, ?_⟩, ?_⟩, hv⟩
    · omega
    · omega
    · simpa using hu
  | @four _ t u w hb ht hu hw hv hbounds =>
    obtain ⟨bits₁, hbits₁, hbyte₁, hpush₁⟩ := push_of_isTail (b.toNat - 0xF0) ht
    obtain ⟨bits₂, hbits₂, -, hpush₂⟩ := push_of_isTail (push (b.toNat - 0xF0) t) hu
    obtain ⟨bits₃, hbits₃, -, hpush₃⟩ := push_of_isTail (push (push (b.toNat - 0xF0) t) u) hw
    refine ⟨_, ofByte?_four hb (by omega), rfl, areTails_four.mpr ⟨⟨ht, ?_, ?_⟩, ?_⟩, hv⟩
    · omega
    · omega
    · simpa using ⟨hu, hw⟩

theorem Form.toNat_ofNat {v : Nat} {bs : Bytes} (h : Form v bs) :
    (Char.ofNat v).val.toNat = v := by
  rw [Char.ofNat, dif_pos h.isValidChar]
  rfl

/-- One step of the decoder reads one encoded character, whatever follows it. -/
theorem readOne_eq_char {b : UInt8} {bs : Bytes} {c : Char} {n : Nat} :
    readOne b bs = .char c n ↔ ∃ tails rest, bs = tails ++ rest ∧
      String.utf8EncodeChar c = b :: tails ∧ n = tails.length + 1 := by
  simp only [← form_iff]
  rw [readOne]
  constructor
  · intro h
    cases hlead : Lead.ofByte? b with
    | none => exact absurd h (by simp [hlead])
    | some l =>
      rw [hlead] at h
      obtain ⟨tails, rest, rfl, hlength, htails, rfl, rfl⟩ := readTails_eq_char.mp h
      have hform := form_of_lead hlead hlength htails
      exact ⟨tails, rest, rfl, hform.toNat_ofNat.symm ▸ hform, by omega⟩
  · rintro ⟨tails, rest, rfl, hform, rfl⟩
    obtain ⟨l, hlead, hlength, htails, hv⟩ := hform.lead
    rw [hlead]
    refine readTails_eq_char.mpr ⟨tails, rest, rfl, hlength, htails, by omega, ?_⟩
    rw [hv]
    exact (Char.ofNat_toNat c).symm

/-- The bytes of a character read already are passed over. -/
theorem decodeFrom_skip (position : Nat) (done : List Char) (tails rest : Bytes) :
    decodeFrom position tails.length done (tails ++ rest) =
      decodeFrom (position + tails.length) 0 done rest := by
  induction tails generalizing position with
  | nil => rfl
  | cons t tails ih =>
    rw [List.length_cons, List.cons_append, decodeFrom, ih, Nat.add_right_comm, Nat.add_assoc]

theorem encodeChars_cons (c : Char) (cs : List Char) :
    encodeChars (c :: cs) = String.utf8EncodeChar c ++ encodeChars cs :=
  List.flatMap_cons

theorem decodeFrom_encodeChars (position : Nat) (done cs : List Char) :
    decodeFrom position 0 done (encodeChars cs) = .ok (done.reverse ++ cs) := by
  induction cs generalizing position done with
  | nil => simp [encodeChars, decodeFrom]
  | cons c cs ih =>
    rw [encodeChars_cons]
    cases hc : String.utf8EncodeChar c with
    | nil => exact absurd hc (String.utf8EncodeChar_ne_nil)
    | cons b tails =>
      have hone : readOne b (tails ++ encodeChars cs) = .char c (tails.length + 1) :=
        readOne_eq_char.mpr ⟨tails, _, rfl, hc, rfl⟩
      rw [List.cons_append, decodeFrom, hone]
      dsimp only
      rw [Nat.add_sub_cancel, decodeFrom_skip, ih, List.reverse_cons, List.append_assoc]
      rfl

theorem eq_encodeChars_of_decodeFrom {position : Nat} {done cs : List Char} {bs : Bytes}
    (h : decodeFrom position 0 done bs = .ok cs) :
    ∃ more, cs = done.reverse ++ more ∧ bs = encodeChars more := by
  -- A step takes a whole character, so the induction is on the length of what is left.
  induction hlength : bs.length using Nat.strong_induction_on generalizing position done bs with
  | h n ih =>
    cases bs with
    | nil =>
      obtain rfl := Except.ok.inj h
      exact ⟨[], by simp, rfl⟩
    | cons b bs =>
      rw [decodeFrom] at h
      split at h
      next c length hone =>
        obtain ⟨tails, rest, rfl, hc, rfl⟩ := readOne_eq_char.mp hone
        rw [Nat.add_sub_cancel, decodeFrom_skip] at h
        obtain ⟨more, rfl, rfl⟩ := ih rest.length (by simp at hlength; omega) h rfl
        exact ⟨c :: more, by simp, by rw [encodeChars_cons, hc, List.cons_append]⟩
      next => exact absurd h (by simp)

/-- The decoder takes exactly what the encoder writes. -/
theorem decode_eq_ok {bs : Bytes} {cs : List Char} : decode bs = .ok cs ↔ bs = encodeChars cs := by
  constructor
  · intro h
    obtain ⟨more, rfl, hbs⟩ := eq_encodeChars_of_decodeFrom h
    simpa using hbs
  · rintro rfl
    simpa [decode] using decodeFrom_encodeChars 0 [] cs

end Phrasebook.Utf8
