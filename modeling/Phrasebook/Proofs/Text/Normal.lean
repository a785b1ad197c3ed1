import Mathlib
import Phrasebook.Proofs.ClassNames
import Phrasebook.Proofs.Text.Encodable

/-! ASCII text is in normalization form KC: none of the tables of the form begins inside ASCII. So
the names made of ASCII letters, digits and underscores may be accessors. -/

namespace Phrasebook

namespace Unicode

theorem bounds_of_mem_composites : ∀ c ∈ composites, 0x80 ≤ c.whole ∧ 0x80 ≤ c.second := by
  decide +kernel

theorem combiningClass_of_lt {n : Nat} (h : n < 0x80) : combiningClass n = 0 := by
  have hfirst : ∀ r ∈ markRuns, 0x80 ≤ r.first := by decide +kernel
  unfold combiningClass
  generalize markRuns = runs at hfirst
  cases runs with
  | nil => rfl
  | cons r runs => exact if_pos (Nat.lt_of_lt_of_le h (hfirst r (List.mem_cons_self ..)))

theorem compatibility_of_lt {n : Nat} (h : n < 0x80) : compatibility.holds n = false := by
  have hturns : ∀ t ∈ compatibility.turns, t ≤ 0 ∨ 0x7F < t := by decide +kernel
  have hzero : compatibility.holds 0 = false := by decide +kernel
  rw [← hzero]
  exact Property.within_eq hturns (Nat.zero_le n) (by omega)

end Unicode

namespace Text

namespace Normal

open Unicode

variable {n : Nat} {ns : List Nat}

theorem decompose_of_lt (depth : Nat) (h : n < 0x80) : decompose depth n = [n] := by
  cases depth with
  | zero => rfl
  | succ depth =>
    have hsyllable : isSyllable n = false := by
      have hbase : ¬syllableBase ≤ n := by
        rw [syllableBase]
        omega
      simp [isSyllable, hbase]
    have hcomposite : composite? n = none := by
      rw [composite?, List.find?_eq_none]
      intro c hc heq
      have := (bounds_of_mem_composites c hc).1
      have : c.whole = n := by simpa using heq
      omega
    rw [decompose, hsyllable, hcomposite]
    rfl

theorem composePair_of_lt (starter : Nat) (h : n < 0x80) : composePair starter n = none := by
  have hpair : composites.find? (fun c => c.first == starter && c.second == n) = none := by
    rw [List.find?_eq_none]
    intro c hc heq
    have := (bounds_of_mem_composites c hc).2
    have : c.second = n := by simpa using (Bool.and_eq_true_iff.mp heq).2
    omega
  have hvowel : ¬vowelBase ≤ n := by
    rw [vowelBase]
    omega
  have htail : ¬tailBase < n := by
    rw [tailBase]
    omega
  rw [composePair, if_neg (by simp [hvowel]), if_neg (by simp [htail]), hpair]
  rfl

/-- Starters stay where they are. -/
theorem sortMarks_of_starters (h : ∀ n ∈ ns, combiningClass n = 0) : sortMarks ns = ns := by
  induction ns with
  | nil => rfl
  | cons n ns ih =>
    rw [List.forall_mem_cons] at h
    have hplace : place n ns = n :: ns := by
      cases ns with
      | nil => rfl
      | cons m ns => simp [place, h.1]
    rw [sortMarks, List.foldr_cons, ← sortMarks, ih h.2, hplace]

theorem composeFrom_of_lt (starter : Nat) (h : ∀ n ∈ ns, n < 0x80) :
    composeFrom starter [] ns = starter :: ns := by
  induction ns generalizing starter with
  | nil => rfl
  | cons n ns ih =>
    rw [List.forall_mem_cons] at h
    have hreaches : reaches n [] = true := rfl
    rw [composeFrom, if_pos hreaches, composePair_of_lt starter h.1]
    dsimp only
    rw [if_pos (combiningClass_of_lt h.1), ih n h.2]
    rfl

theorem compose_of_lt (h : ∀ n ∈ ns, n < 0x80) : compose ns = ns := by
  cases ns with
  | nil => rfl
  | cons n ns =>
    rw [List.forall_mem_cons] at h
    rw [compose, if_pos (combiningClass_of_lt h.1), composeFrom_of_lt n h.2]

end Normal

/-- In ASCII there is nothing to normalize. -/
theorem isNormal_of_isAscii {t : Text} (h : ∀ c ∈ t, c.isAscii = true) : t.isNormal = true := by
  have hlt : ∀ n ∈ t.map (·.val), n < 0x80 := by
    rw [List.forall_mem_map]
    exact fun c hc => (CodePoint.isAscii_iff c).mp (h c hc)
  have hkept : (t.map (·.val)).all (fun n => !Unicode.compatibility.holds n) = true := by
    rw [List.all_eq_true]
    intro n hn
    rw [Unicode.compatibility_of_lt (hlt n hn)]
    rfl
  have hdecomposed : (t.map (·.val)).flatMap (Normal.decompose Normal.longestChain) =
      t.map (·.val) := by
    rw [List.flatMap_congr fun n hn => Normal.decompose_of_lt Normal.longestChain (hlt n hn)]
    exact List.flatMap_singleton' _
  have hsorted := Normal.sortMarks_of_starters fun n hn => Unicode.combiningClass_of_lt (hlt n hn)
  simp only [isNormal, hkept, hdecomposed, hsorted, Normal.compose_of_lt hlt, Bool.true_and,
    beq_self_eq_true]

end Text

namespace Identifier

/-- A name in ASCII may be an accessor, unless it is marked as private or taken already. -/
theorem isAccessor_of_isName {t : Text} (h : IsName t) (hmark : t.startsWith [underscore] = false)
    (hfree : t ≠ localeName) : isAccessor t = true := by
  have hnormal : t.isNormal = true := by
    apply Text.isNormal_of_isAscii
    intro c hc
    have hname := (CodePoint.isNameCodePoint_iff c).mp (h.ascii c hc)
    rw [CodePoint.isAscii_iff]
    omega
  simp [isAccessor, h.identifier, hnormal, h.unreserved, hmark, hfree]

end Identifier

end Phrasebook
