import Mathlib
import Phrasebook.Proofs.Text.Case
import Phrasebook.Unicode.Property

/-! The case maps are settled: what a map leads to, it leaves as it is. And no map leads to a blank.
Both are read off the tables, stretch by stretch. -/

namespace Phrasebook.Unicode

namespace CaseRun

/-- The run that maps `k`, and nothing else, to itself. -/
def single (k : Nat) : CaseRun :=
  ⟨k, k, 1, k⟩

/-- The last image. -/
def top (r : CaseRun) : Nat :=
  r.image + (r.last - r.first)

/-- Whether an image under `r` may be among the code points of `s`. Where both runs take every other
code point, they may lie in the same stretch and have none in common. -/
def leadsInto (r s : CaseRun) : Bool :=
  Nat.ble r.image s.last && (Nat.ble s.first r.top &&
    !(s.step == 2 && (r.step == 2 || r.first == r.last) && (r.image + s.first) % 2 == 1))

/-- Whether no image under `r` is among the code points of the runs, which come in increasing
order. -/
def avoids (r : CaseRun) : List CaseRun → Bool
  | [] => true
  | s :: ss => Nat.blt r.top s.first || (!r.leadsInto s && r.avoids ss)

/-- Whether all images under `r` are on one side of `k`. -/
def isBeside (r : CaseRun) (k : Nat) : Bool :=
  Nat.blt k r.image || Nat.blt r.top k

variable {r s : CaseRun} {n : Nat}

theorem covers_iff : r.covers n = true ↔
    r.first ≤ n ∧ n ≤ r.last ∧ (n - r.first) % r.step = 0 := by
  simp [covers, and_assoc]

theorem covers_single (k : Nat) : (single k).covers k = true := by
  simp [covers, single]

theorem apply_single (k : Nat) : (single k).apply k = k := by
  simp [apply, single]

theorem bounds_of_covers (h : r.covers n = true) : r.image ≤ r.apply n ∧ r.apply n ≤ r.top := by
  rw [covers_iff] at h
  rw [apply, top]
  omega

theorem leadsInto_of_covers (h : r.covers n = true) (hs : s.covers (r.apply n) = true) :
    r.leadsInto s = true := by
  obtain ⟨hlow, hhigh⟩ := bounds_of_covers h
  rw [covers_iff] at h hs
  obtain ⟨hfirst, hlast, hstep⟩ := hs
  simp only [leadsInto, Bool.and_eq_true, Nat.ble_eq, Bool.not_eq_true']
  refine ⟨by omega, by omega, ?_⟩
  -- in one stretch the images and the code points of `s` would differ by an odd number
  simp only [← Bool.not_eq_true, Bool.and_eq_true, Bool.or_eq_true, beq_iff_eq]
  rintro ⟨⟨htwo, heven⟩, hodd⟩
  rw [htwo] at hstep
  rw [apply] at hfirst hstep
  rcases heven with heven | heven
  · rw [heven] at h
    omega
  · omega

theorem alongRuns_apply {rs : List CaseRun} (h : r.covers n = true) (hrs : r.avoids rs = true) :
    CaseMap.alongRuns rs (r.apply n) = r.apply n := by
  have htop := (bounds_of_covers h).2
  induction rs with
  | nil => rfl
  | cons s ss ih =>
    simp only [avoids, Bool.or_eq_true, Bool.and_eq_true, Bool.not_eq_true', Nat.blt_eq] at hrs
    rw [CaseMap.alongRuns]
    split_ifs with hlow hcovers
    · rfl
    · rcases hrs with hrs | ⟨hs, _⟩
      · omega
      · exact absurd (leadsInto_of_covers h hcovers) (by simp [hs])
    · rcases hrs with hrs | ⟨_, hss⟩
      · omega
      · exact ih hss

end CaseRun

namespace CaseMap

variable {m : CaseMap} {n k : Nat}

/-- Runs whose images are all that the map leads to. -/
def targets (m : CaseMap) : List CaseRun :=
  m.runs ++ m.expansions.flatMap fun e => e.2.map .single

/-- Whether the map leaves alone whatever it leads to. -/
def isSettled (m : CaseMap) : Bool :=
  m.targets.all fun r => r.avoids m.runs && m.expansions.all fun e => r.isBeside e.1

theorem isSettled_lowercase : lowercase.isSettled = true := by
  decide +kernel

theorem isSettled_uppercase : uppercase.isSettled = true := by
  decide +kernel

theorem alongRuns_eq (rs : List CaseRun) (n : Nat) :
    alongRuns rs n = n ∨ ∃ r ∈ rs, r.covers n = true ∧ alongRuns rs n = r.apply n := by
  induction rs with
  | nil => exact .inl rfl
  | cons r rs ih =>
    unfold alongRuns
    split_ifs with hlow hcovers
    · exact .inl rfl
    · exact .inr ⟨r, List.mem_cons_self .., hcovers, rfl⟩
    · rcases ih with h | ⟨s, hs, h⟩
      · exact .inl h
      · exact .inr ⟨s, List.mem_cons_of_mem r hs, h⟩

theorem image_apply {r : CaseRun} (settled : m.isSettled = true) (hr : r ∈ m.targets)
    (h : r.covers n = true) : m.image (r.apply n) = [r.apply n] := by
  simp only [isSettled, List.all_eq_true, Bool.and_eq_true] at settled
  obtain ⟨havoids, hbeside⟩ := settled r hr
  have hlookup : m.expansions.lookup (r.apply n) = none := by
    rw [List.lookup_eq_none_iff]
    intro e he
    have hside := hbeside e he
    have hbounds := CaseRun.bounds_of_covers h
    simp only [CaseRun.isBeside, Bool.or_eq_true, Nat.blt_eq] at hside
    rw [bne_iff_ne]
    omega
  rw [image, hlookup]
  exact congrArg (fun k => [k]) (CaseRun.alongRuns_apply h havoids)

/-- A settled map leaves an image as it is. -/
theorem image_of_mem_image (settled : m.isSettled = true) (h : k ∈ m.image n) :
    m.image k = [k] := by
  cases hlookup : m.expansions.lookup n with
  | some ns =>
    rw [image, hlookup] at h
    obtain ⟨before, after, he, _⟩ := List.lookup_eq_some_iff.mp hlookup
    have htarget : CaseRun.single k ∈ m.targets := by
      refine List.mem_append_right _ (List.mem_flatMap.mpr ⟨(n, ns), by simp [he], ?_⟩)
      exact List.mem_map_of_mem h
    have himage := image_apply settled htarget (CaseRun.covers_single k)
    rwa [CaseRun.apply_single] at himage
  | none =>
    have himage : m.image n = [alongRuns m.runs n] := by rw [image, hlookup]
    rw [himage, List.mem_singleton] at h
    rcases alongRuns_eq m.runs n with hself | ⟨r, hr, hcovers, happly⟩
    · rw [h, hself, himage, hself]
    · rw [h, happly]
      exact image_apply settled (List.mem_append_left _ hr) hcovers

theorem image_ne_nil (hne : (m.expansions.all fun e => !e.2.isEmpty) = true) (n : Nat) :
    m.image n ≠ [] := by
  unfold image
  split
  next ns hlookup =>
    obtain ⟨before, after, he, _⟩ := List.lookup_eq_some_iff.mp hlookup
    have hns := List.all_eq_true.mp hne (n, ns) (by simp [he])
    simpa using hns
  next => exact List.cons_ne_nil _ _

end CaseMap

/-! ### Blanks -/

namespace Property

variable {ts : List Nat} {n : Nat}

/-- The stretches of a set: each from a turn at which membership begins up to the next turn. -/
def stretches : List Nat → List (Nat × Nat)
  | first :: last :: ts => (first, last) :: stretches ts
  | _ => []

/-- Where as many turns lead out as in, a set is made of its stretches. -/
theorem exists_stretch (heven : ts.length % 2 = 0) (h : within ts n = true) :
    ∃ s ∈ stretches ts, s.1 ≤ n ∧ n < s.2 := by
  induction ts using stretches.induct with
  | case1 first last ts ih =>
    simp only [within, Bool.and_eq_true, decide_eq_true_eq, Bool.not_eq_true',
      Bool.and_eq_false_iff, decide_eq_false_iff_not, Bool.not_eq_false'] at h
    obtain ⟨hfirst, hlast | hrest⟩ := h
    · exact ⟨(first, last), List.mem_cons_self .., hfirst, Nat.lt_of_not_le hlast⟩
    · have hlength : ts.length % 2 = 0 := by
        simp only [List.length_cons] at heven
        omega
      obtain ⟨s, hs, hbounds⟩ := ih hlength hrest
      exact ⟨s, List.mem_cons_of_mem _ hs, hbounds⟩
  | case2 ts hshort =>
    match ts, hshort with
    | [], _ => exact absurd h (by simp [within])
    | [t], _ => exact absurd heven (by simp)
    | first :: last :: ts, hshort => exact absurd rfl (hshort first last ts)

end Property

private theorem avoids_stretches : (Property.stretches blank.turns).all (fun s =>
    lowercase.avoids s.1 s.2 && uppercase.avoids s.1 s.2 &&
      (decide (0x3C2 < s.1) || decide (s.2 ≤ 0x3C2))) = true := by
  decide +kernel

/-- No case map leads to a blank, and the final sigma is none. -/
theorem unreached_of_blank {n : Nat} (h : blank.holds n = true) :
    lowercase.reaches n = false ∧ uppercase.reaches n = false ∧ n ≠ 0x3C2 := by
  obtain ⟨s, hs, hfirst, hlast⟩ := Property.exists_stretch (by decide) h
  have hall := List.all_eq_true.mp avoids_stretches s hs
  simp only [Bool.and_eq_true, Bool.or_eq_true, decide_eq_true_eq] at hall
  obtain ⟨⟨hlower, hupper⟩, hsigma⟩ := hall
  exact ⟨CaseMap.reaches_of_avoids hlower hfirst hlast,
    CaseMap.reaches_of_avoids hupper hfirst hlast, by omega⟩

end Phrasebook.Unicode
