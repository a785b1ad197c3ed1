import Mathlib
import Phrasebook.Text

/-! Cuts of texts: where a run of code points of one class ends, the text can be cut in one way
only. -/

namespace Phrasebook.Text

variable {p : CodePoint → Bool} {x y u v : Text}

/-- A literal is the list of its characters. With this in place of the literal, a fact about it is
decided without decoding the literal. -/
theorem ofString_ofList (cs : List Char) :
    ofString (String.ofList cs) = cs.map CodePoint.ofChar := by
  rw [ofString, String.toList_ofList]

/-- A text that does not go on in the class `p`. -/
def EndsRun (p : CodePoint → Bool) (u : Text) : Prop :=
  ∀ c ∈ u.head?, p c = false

@[simp] theorem endsRun_nil : EndsRun p [] := by
  intro c hc
  exact absurd hc (by simp)

@[simp] theorem endsRun_cons {c : CodePoint} : EndsRun p (c :: u) ↔ p c = false := by
  simp [EndsRun]

theorem endsRun_append (h : x.head?.any (fun c => !p c) = true) (u : Text) :
    EndsRun p (x ++ u) := by
  cases x with
  | nil => exact absurd h (by simp)
  | cons c x =>
    rw [List.cons_append, endsRun_cons]
    simpa using h

theorem takeWhile_run (hx : ∀ c ∈ x, p c = true) (hu : EndsRun p u) :
    (x ++ u).takeWhile p = x := by
  induction x with
  | nil =>
    cases u with
    | nil => rfl
    | cons c u => simp [endsRun_cons.mp hu]
  | cons c x ih =>
    rw [List.cons_append, List.takeWhile_cons_of_pos (hx c (List.mem_cons_self ..)),
      ih fun d hd => hx d (List.mem_cons_of_mem c hd)]

theorem dropWhile_run (hx : ∀ c ∈ x, p c = true) (hu : EndsRun p u) :
    (x ++ u).dropWhile p = u := by
  have h := List.takeWhile_append_dropWhile (p := p) (l := x ++ u)
  rw [takeWhile_run hx hu] at h
  exact List.append_cancel_left h

theorem endsRun_of_prefix (h : EndsRun p (x ++ u)) : EndsRun p x := by
  cases x with
  | nil => exact endsRun_nil
  | cons c x =>
    rw [List.cons_append, endsRun_cons] at h
    exact endsRun_cons.mpr h

theorem endsRun_dropWhile (p : CodePoint → Bool) (t : Text) : EndsRun p (t.dropWhile p) := by
  intro c hc
  have hnot := List.head?_dropWhile_not p t
  rw [Option.mem_def.mp hc] at hnot
  exact hnot

theorem dropWhile_of_endsRun (h : EndsRun p u) : u.dropWhile p = u :=
  dropWhile_run (x := []) (by simp) h

/-- Two cuts of one text at the end of a run are the same cut. -/
theorem run_append_inj (hx : ∀ c ∈ x, p c = true) (hy : ∀ c ∈ y, p c = true)
    (hu : EndsRun p u) (hv : EndsRun p v) (h : x ++ u = y ++ v) : x = y ∧ u = v := by
  constructor
  · rw [← takeWhile_run hx hu, h, takeWhile_run hy hv]
  · rw [← dropWhile_run hx hu, h, dropWhile_run hy hv]

/-- No part holds a mark. -/
theorem not_mark_of_mem_splitWhere {isMark : CodePoint → Bool} {t part : Text}
    (h : part ∈ splitWhere isMark t) : ∀ c ∈ part, isMark c = false := by
  induction t generalizing part with
  | nil =>
    obtain rfl : part = [] := by simpa [splitWhere] using h
    simp
  | cons c t ih =>
    unfold splitWhere at h
    split_ifs at h with hc
    · rcases List.mem_cons.mp h with rfl | h
      · simp
      · exact ih h
    · split at h
      next hs =>
        obtain rfl : part = [c] := by simpa using h
        simpa using hc
      next first others hs =>
        rcases List.mem_cons.mp h with rfl | h
        · intro d hd
          rcases List.mem_cons.mp hd with rfl | hd
          · simpa using hc
          · exact ih (hs ▸ List.mem_cons_self ..) d hd
        · exact ih (hs ▸ List.mem_cons_of_mem _ h)

/-- The parts are made of what the text holds. -/
theorem mem_of_mem_splitWhere {isMark : CodePoint → Bool} {t part : Text} {c : CodePoint}
    (h : part ∈ splitWhere isMark t) (hc : c ∈ part) : c ∈ t := by
  induction t generalizing part with
  | nil =>
    obtain rfl : part = [] := by simpa [splitWhere] using h
    exact hc
  | cons d t ih =>
    unfold splitWhere at h
    split_ifs at h
    · rcases List.mem_cons.mp h with rfl | h
      · exact absurd hc (by simp)
      · exact List.mem_cons_of_mem d (ih h hc)
    · split at h
      next =>
        obtain rfl : part = [d] := by simpa using h
        exact List.mem_cons.mpr (.inl (List.mem_singleton.mp hc))
      next first others hs =>
        rcases List.mem_cons.mp h with rfl | h
        · rcases List.mem_cons.mp hc with rfl | hc
          · exact List.mem_cons_self ..
          · exact List.mem_cons_of_mem d (ih (hs ▸ List.mem_cons_self ..) hc)
        · exact List.mem_cons_of_mem d (ih (hs ▸ List.mem_cons_of_mem _ h) hc)

theorem splitWhere_ne_nil (isMark : CodePoint → Bool) (t : Text) : splitWhere isMark t ≠ [] := by
  cases t with
  | nil => exact List.cons_ne_nil _ _
  | cons c t =>
    unfold splitWhere
    split_ifs
    · exact List.cons_ne_nil _ _
    · split <;> exact List.cons_ne_nil _ _

/-- A text without marks is its only part. -/
theorem splitWhere_of_unmarked {isMark : CodePoint → Bool} {t : Text}
    (h : ∀ c ∈ t, isMark c = false) : splitWhere isMark t = [t] := by
  induction t with
  | nil => rfl
  | cons c t ih =>
    have ht := ih fun d hd => h d (List.mem_cons_of_mem c hd)
    simp [splitWhere, h c (List.mem_cons_self ..), ht]

theorem joined_cons {between first : Text} {parts : List Text} (h : parts ≠ []) :
    joined between (first :: parts) = first ++ between ++ joined between parts := by
  cases parts with
  | nil => exact absurd rfl h
  | cons second parts => exact List.intercalate_cons_cons

/-- Every part stands in what is joined. -/
theorem infix_joined {mark part : Text} {parts : List Text} (h : part ∈ parts) :
    part <:+: joined mark parts := by
  unfold joined
  induction parts with
  | nil => exact absurd h (by simp)
  | cons first rest ih =>
    cases rest with
    | nil =>
      obtain rfl : part = first := by simpa using h
      rw [List.intercalate_singleton]
    | cons second rest =>
      rw [List.intercalate_cons_cons]
      rcases List.mem_cons.mp h with rfl | h
      · exact List.IsInfix.trans ⟨[], mark, rfl⟩ (List.prefix_append _ _).isInfix
      · exact (ih h).trans (List.suffix_append _ _).isInfix

/-- What is joined holds nothing but what its parts and the text between them do. -/
theorem forall_mem_joined {q : CodePoint → Prop} {between : Text} {parts : List Text}
    (hbetween : ∀ c ∈ between, q c) (h : ∀ part ∈ parts, ∀ c ∈ part, q c) :
    ∀ c ∈ joined between parts, q c := by
  induction parts with
  | nil => simp [joined]
  | cons first parts ih =>
    rw [List.forall_mem_cons] at h
    cases parts with
    | nil => simpa [joined] using h.1
    | cons second parts =>
      rw [joined_cons (List.cons_ne_nil _ _), List.forall_mem_append, List.forall_mem_append]
      exact ⟨⟨h.1, hbetween⟩, ih h.2⟩

/-- Between its parts, joined by one mark, a text has that mark for every other. -/
theorem joined_splitWhere (isMark : CodePoint → Bool) (mark : CodePoint) (t : Text) :
    joined [mark] (splitWhere isMark t) = t.map fun c => if isMark c then mark else c := by
  induction t with
  | nil => rfl
  | cons c t ih =>
    have hne : splitWhere isMark t ≠ [] := splitWhere_ne_nil isMark t
    obtain ⟨part, parts, hparts⟩ := List.exists_cons_of_ne_nil hne
    rw [hparts] at ih
    rw [List.map_cons, ← ih, splitWhere, hparts]
    cases hc : isMark c with
    | true => simp [joined, List.intercalate_cons_cons]
    | false => cases parts <;> simp [joined, List.intercalate_cons_cons]

/-- A mark cuts the text in two. -/
theorem splitWhere_append {isMark : CodePoint → Bool} {mark : CodePoint}
    (hmark : isMark mark = true) (x t : Text) :
    splitWhere isMark (x ++ mark :: t) = splitWhere isMark x ++ splitWhere isMark t := by
  induction x with
  | nil => simp [splitWhere, hmark]
  | cons c x ih =>
    obtain ⟨part, parts, hparts⟩ := List.exists_cons_of_ne_nil (splitWhere_ne_nil isMark x)
    rw [List.cons_append, splitWhere, splitWhere, ih, hparts]
    split_ifs <;> rfl

theorem splitWhere_append_mark {isMark : CodePoint → Bool} {mark : CodePoint}
    (hx : ∀ c ∈ x, isMark c = false) (hmark : isMark mark = true) (t : Text) :
    splitWhere isMark (x ++ mark :: t) = x :: splitWhere isMark t := by
  rw [splitWhere_append hmark, splitWhere_of_unmarked hx]
  rfl

/-- Parts without marks are read back from between their marks. -/
theorem splitWhere_joined {isMark : CodePoint → Bool} {mark : CodePoint} {parts : List Text}
    (hne : parts ≠ []) (hparts : ∀ part ∈ parts, ∀ c ∈ part, isMark c = false)
    (hmark : isMark mark = true) : splitWhere isMark (joined [mark] parts) = parts := by
  induction parts with
  | nil => exact absurd rfl hne
  | cons part parts ih =>
    rw [List.forall_mem_cons] at hparts
    cases parts with
    | nil =>
      rw [joined, List.intercalate_singleton]
      exact splitWhere_of_unmarked hparts.1
    | cons second parts =>
      have hrest := ih (List.cons_ne_nil _ _) hparts.2
      rw [joined_cons (List.cons_ne_nil _ _), List.append_assoc, List.singleton_append,
        splitWhere_append_mark hparts.1 hmark, hrest]

/-- A change that leaves the marks marks is a change of the parts. -/
theorem splitWhere_map {isMark : CodePoint → Bool} {f g : CodePoint → CodePoint}
    (hmark : ∀ c, isMark (f c) = isMark c) (hpart : ∀ c, isMark c = false → f c = g c)
    (t : Text) : splitWhere isMark (t.map f) = (splitWhere isMark t).map (List.map g) := by
  induction t with
  | nil => rfl
  | cons c t ih =>
    rw [List.map_cons, splitWhere, splitWhere, hmark, ih]
    cases hc : isMark c with
    | true => rfl
    | false =>
      rw [hpart c hc]
      cases splitWhere isMark t <;> rfl

/-! ### The first mark -/

variable {mark : CodePoint}

theorem not_mark_of_notMem (h : mark ∉ x) : ∀ c ∈ x, decide (c ≠ mark) = true := by
  intro c hc
  rw [decide_eq_true_eq]
  rintro rfl
  exact h hc

theorem before_of_notMem (h : mark ∉ x) : before mark x = x := by
  have htake := takeWhile_run (not_mark_of_notMem h) endsRun_nil
  rwa [List.append_nil] at htake

/-- What comes after a mark makes no difference to what stands before the first. -/
theorem before_append_cons (mark : CodePoint) (x y : Text) :
    before mark (x ++ mark :: y) = before mark x := by
  induction x with
  | nil => simp [before]
  | cons c x ih =>
    unfold before at ih ⊢
    rw [List.cons_append, List.takeWhile_cons, List.takeWhile_cons, ih]

theorem before_append (h : mark ∉ x) (y : Text) : before mark (x ++ mark :: y) = x := by
  rw [before_append_cons, before_of_notMem h]

theorem after_append (h : mark ∉ x) (y : Text) : after mark (x ++ mark :: y) = y := by
  rw [after, dropWhile_run (not_mark_of_notMem h) (by simp)]
  rfl

theorem after_of_notMem (h : mark ∉ x) : after mark x = [] := by
  have hdrop := dropWhile_run (not_mark_of_notMem h) endsRun_nil
  rw [List.append_nil] at hdrop
  rw [after, hdrop]
  rfl

theorem before_joined {parts : List Text} (h : mark ∉ x) :
    before mark (joined [mark] (x :: parts)) = x := by
  cases parts with
  | nil => rw [joined, List.intercalate_singleton, before_of_notMem h]
  | cons second parts =>
    rw [joined_cons (List.cons_ne_nil _ _), List.append_assoc, List.singleton_append,
      before_append h]

theorem after_joined {parts : List Text} (h : mark ∉ x) :
    after mark (joined [mark] (x :: parts)) = joined [mark] parts := by
  cases parts with
  | nil =>
    rw [joined, List.intercalate_singleton, after_of_notMem h, joined, List.intercalate_nil]
  | cons second parts =>
    rw [joined_cons (List.cons_ne_nil _ _), List.append_assoc, List.singleton_append,
      after_append h]

theorem notMem_before (mark : CodePoint) (t : Text) : mark ∉ before mark t := by
  intro h
  simpa using List.mem_takeWhile_imp h

theorem mem_of_mem_trim {cut : CodePoint → Bool} {c : CodePoint} {t : Text}
    (h : c ∈ trim cut t) : c ∈ t := by
  rw [trim, List.mem_reverse] at h
  have hdrop := (List.dropWhile_sublist cut).subset h
  rw [List.mem_reverse] at hdrop
  exact (List.dropWhile_sublist cut).subset hdrop

/-! ### Bare ends -/

/-- A text with nothing of the class at either end. -/
structure IsBare (p : CodePoint → Bool) (t : Text) : Prop where
  front : EndsRun p t
  back : EndsRun p t.reverse

theorem IsBare.trim_eq (h : IsBare p u) : trim p u = u := by
  rw [trim, dropWhile_of_endsRun h.front, dropWhile_of_endsRun h.back, List.reverse_reverse]

theorem isBare_trim (p : CodePoint → Bool) (t : Text) : IsBare p (trim p t) := by
  constructor
  · -- what is cut at the back leaves the front as it is
    obtain ⟨cut, hcut⟩ := List.dropWhile_suffix (l := (t.dropWhile p).reverse) p
    have hback : t.dropWhile p = trim p t ++ cut.reverse := by
      rw [trim, ← List.reverse_append, hcut, List.reverse_reverse]
    exact endsRun_of_prefix (hback ▸ endsRun_dropWhile p t)
  · rw [trim, List.reverse_reverse]
    exact endsRun_dropWhile p _

theorem trim_map {f : CodePoint → CodePoint} (h : ∀ c, p (f c) = p c) (t : Text) :
    trim p (t.map f) = (trim p t).map f := by
  have hp : p ∘ f = p := funext h
  rw [trim, trim, List.dropWhile_map, ← List.map_reverse, List.dropWhile_map, ← List.map_reverse,
    hp]

/-- What belongs to the class at the ends makes no difference. -/
theorem trim_surrounded (hx : ∀ c ∈ x, p c = true) (hy : ∀ c ∈ y, p c = true) (t : Text) :
    trim p (x ++ t ++ y) = trim p t := by
  have hy' : ∀ c ∈ y.reverse, p c = true := by simpa using hy
  rw [List.append_assoc, trim, List.dropWhile_append_of_pos hx, List.dropWhile_append]
  split
  next hall =>
    rw [trim, List.isEmpty_iff.mp hall, List.dropWhile_eq_nil_iff.mpr hy]
  next => rw [List.reverse_append, List.dropWhile_append_of_pos hy', trim]

end Phrasebook.Text
