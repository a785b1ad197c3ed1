import Mathlib
import Phrasebook.Json.Reader
import Phrasebook.Proofs.Json.Spacing

/-! What the steps of the reader of JSON documents can be, and what they keep. An object that
declares a key twice is refused when it closes, so no step ends a document with such an object. -/

namespace Phrasebook.Json

/-- The steps on the first token of a value, the frames of `stack` being open around it. -/
inductive Begins (stack : List Frame) : Token → ReaderState → Prop
  | openObject (h : stack.length < maxDepth) : Begins stack .openBrace ⟨stack, .firstKey⟩
  | openArray (h : stack.length < maxDepth) : Begins stack .openBracket ⟨stack, .firstItem⟩
  | null : Begins stack .null (deliver stack .null)
  | boolean (b : Bool) : Begins stack (.boolean b) (deliver stack (.boolean b))
  | integer (n : Int) : Begins stack (.integer n) (deliver stack (.integer n))
  | real : Begins stack .real (deliver stack .real)
  | text (x : Text) : Begins stack (.text x) (deliver stack (.text x))

/-- The steps of the reader that are no fault. -/
inductive Step : ReaderState → Token → ReaderState → Prop
  | value {stack : List Frame} {t : Token} {s : ReaderState} (h : Begins stack t s) :
      Step ⟨stack, .value⟩ t s
  | firstItem {stack : List Frame} {t : Token} {s : ReaderState}
      (h : Begins (.array [] :: stack) t s) : Step ⟨stack, .firstItem⟩ t s
  | emptyArray (stack : List Frame) :
      Step ⟨stack, .firstItem⟩ .closeBracket (deliver stack (.array []))
  | firstKey (stack : List Frame) (key : Text) :
      Step ⟨stack, .firstKey⟩ (.text key) ⟨stack, .colon [] key⟩
  | emptyObject (stack : List Frame) :
      Step ⟨stack, .firstKey⟩ .closeBrace (deliver stack (.object []))
  | key (stack : List Frame) (done : List (Text × Json)) (key : Text) :
      Step ⟨stack, .key done⟩ (.text key) ⟨stack, .colon done key⟩
  | colon (stack : List Frame) (done : List (Text × Json)) (key : Text) :
      Step ⟨stack, .colon done key⟩ .colon ⟨.object done key :: stack, .value⟩
  | nextItem (stack : List Frame) (done : List Json) :
      Step ⟨stack, .itemEnd done⟩ .comma ⟨.array done :: stack, .value⟩
  | closeArray (stack : List Frame) (done : List Json) :
      Step ⟨stack, .itemEnd done⟩ .closeBracket (deliver stack (.array done.reverse))
  | nextMember (stack : List Frame) (done : List (Text × Json)) :
      Step ⟨stack, .memberEnd done⟩ .comma ⟨stack, .key done⟩
  | closeObject (stack : List Frame) {done : List (Text × Json)}
      (h : firstRepeated [] done.reverse = none) :
      Step ⟨stack, .memberEnd done⟩ .closeBrace (deliver stack (.object done.reverse))

section Steps

variable {stack : List Frame} {done : List (Text × Json)} {t : Token} {here : List Char}
  {s s' : ReaderState}

theorem beginValue_eq_ok_iff : beginValue stack t here = .ok s ↔ Begins stack t s := by
  constructor
  · intro h
    cases t with
    | openBrace =>
      rw [beginValue] at h
      split_ifs at h with hdepth
      obtain rfl := Except.ok.inj h
      exact .openObject hdepth
    | openBracket =>
      rw [beginValue] at h
      split_ifs at h with hdepth
      obtain rfl := Except.ok.inj h
      exact .openArray hdepth
    | null | boolean | integer | real | text =>
      obtain rfl := Except.ok.inj h
      constructor
    | _ => exact absurd h (by simp [beginValue])
  · intro h
    cases h with
    | openObject hdepth | openArray hdepth => exact if_pos hdepth
    | _ => rfl

theorem closeObject_eq_ok_iff :
    closeObject stack done = .ok s ↔
      firstRepeated [] done.reverse = none ∧ s = deliver stack (.object done.reverse) := by
  cases h : firstRepeated [] done.reverse <;> simp [closeObject, h, eq_comm]

theorem takeKey_eq_ok_iff :
    takeKey stack done t here = .ok s ↔
      ∃ key, t = .text key ∧ s = ⟨stack, .colon done key⟩ := by
  cases t <;> simp [takeKey, eq_comm]

theorem Step.of_take (h : s.take t here = .ok s') : Step s t s' := by
  obtain ⟨stack, expects⟩ := s
  unfold ReaderState.take at h
  cases expects with
  | value => exact .value (beginValue_eq_ok_iff.mp h)
  | firstItem =>
    dsimp only at h
    split at h
    next =>
      obtain rfl := Except.ok.inj h
      exact .emptyArray stack
    next => exact .firstItem (beginValue_eq_ok_iff.mp h)
  | firstKey =>
    dsimp only at h
    split at h
    next =>
      obtain ⟨-, rfl⟩ := closeObject_eq_ok_iff.mp h
      exact .emptyObject stack
    next =>
      obtain ⟨key, rfl, rfl⟩ := takeKey_eq_ok_iff.mp h
      exact .firstKey stack key
  | key done =>
    obtain ⟨key, rfl, rfl⟩ := takeKey_eq_ok_iff.mp h
    exact .key stack done key
  | colon done key =>
    cases t with
    | colon =>
      obtain rfl := Except.ok.inj h
      exact .colon stack done key
    | _ => exact absurd h (by simp)
  | itemEnd done =>
    cases t with
    | comma | closeBracket =>
      obtain rfl := Except.ok.inj h
      constructor
    | _ => exact absurd h (by simp)
  | memberEnd done =>
    cases t with
    | comma =>
      obtain rfl := Except.ok.inj h
      exact .nextMember stack done
    | closeBrace =>
      obtain ⟨hnone, rfl⟩ := closeObject_eq_ok_iff.mp h
      exact .closeObject stack hnone
    | _ => exact absurd h (by simp)
  | documentEnd v => exact absurd h (by simp)

/-- A step does not depend on where in the document its token stands. -/
theorem take_eq_ok_iff : s.take t here = .ok s' ↔ Step s t s' := by
  refine ⟨.of_take, fun h => ?_⟩
  cases h with
  | value h => exact beginValue_eq_ok_iff.mpr h
  | firstItem h =>
    have hbegin : beginValue _ t here = .ok s' := beginValue_eq_ok_iff.mpr h
    cases h <;> exact hbegin
  | closeObject stack hnone => exact closeObject_eq_ok_iff.mpr ⟨hnone, rfl⟩
  | _ => rfl

theorem finish_eq_ok_iff {v : Json} : s.finish = .ok v ↔ s.expects = .documentEnd v := by
  unfold ReaderState.finish
  split <;> simp_all

theorem run_cons_eq_ok_iff {l : Lexeme} {ls : List Lexeme} {v : Json} :
    s.run (l :: ls) = .ok v ↔ ∃ s', Step s l.token s' ∧ s'.run ls = .ok v := by
  rw [ReaderState.run]
  constructor
  · intro h
    split at h
    next s' htake => exact ⟨s', take_eq_ok_iff.mp htake, h⟩
    next => exact absurd h (by simp)
  · rintro ⟨s', hstep, h⟩
    rw [take_eq_ok_iff.mpr hstep]
    exact h

/-- A byte order mark begins no value, so that it is refused apart changes only the message. -/
theorem read_eq_ok_iff {document : List Char} {v : Json} :
    read document = .ok v ↔ (⟨[], .value⟩ : ReaderState).run (lexemes document) = .ok v := by
  unfold read
  split
  next rest =>
    have hmark : isSpace '\uFEFF' = false := by decide
    refine iff_of_false (by simp) fun h => ?_
    rw [lexemes_cons hmark, run_cons_eq_ok_iff] at h
    obtain ⟨s, hstep, _⟩ := h
    have hstray : (nextToken '\uFEFF' rest).1 = .stray := rfl
    rw [hstray] at hstep
    cases hstep with
    | value h => cases h
  next => exact Iff.rfl

end Steps

/-! ### Distinct keys -/

theorem firstRepeated_eq_none_iff {seen : List Text} {members : List (Text × Json)} :
    firstRepeated seen members = none ↔
      (members.map (·.1)).Nodup ∧ (members.map (·.1)).Disjoint seen := by
  induction members generalizing seen with
  | nil => simp [firstRepeated]
  | cons m ms ih =>
    obtain ⟨key, v⟩ := m
    rw [firstRepeated, List.map_cons, List.nodup_cons, List.disjoint_cons_left]
    split_ifs with hkey
    · have hseen : key ∈ seen := List.contains_iff_mem.mp hkey
      exact iff_of_false (by simp) fun h => h.2.1 hseen
    · have hseen : key ∉ seen := mt List.contains_iff_mem.mpr hkey
      rw [ih, List.disjoint_cons_right]
      tauto

theorem firstRepeated_nil_eq_none_iff {members : List (Text × Json)} :
    firstRepeated [] members = none ↔ (members.map (·.1)).Nodup := by
  simp [firstRepeated_eq_none_iff]

/-- An object, if a value is one, without repeated keys. -/
def HasDistinctKeys (v : Json) : Prop :=
  ∀ members, v = .object members → (members.map (·.1)).Nodup

/-- The value that a document has given, if it has, is without repeated keys. -/
def ReaderState.IsClean (s : ReaderState) : Prop :=
  ∀ v, s.expects = .documentEnd v → v.HasDistinctKeys

theorem isClean_deliver {stack : List Frame} {v : Json} (h : v.HasDistinctKeys) :
    (deliver stack v).IsClean := by
  intro result hresult
  unfold deliver at hresult
  split at hresult
  · obtain rfl := Expectation.documentEnd.inj hresult
    exact h
  · exact absurd hresult (by simp)
  · exact absurd hresult (by simp)

theorem Begins.isClean {stack : List Frame} {t : Token} {s : ReaderState} (h : Begins stack t s) :
    s.IsClean := by
  cases h with
  | openObject | openArray =>
    intro v hv
    exact absurd hv (by simp)
  | _ => exact isClean_deliver fun members hm => absurd hm (by simp)

/-- Whatever the reader has read so far, a step gives no object with repeated keys. -/
theorem Step.isClean {s s' : ReaderState} {t : Token} (h : Step s t s') : s'.IsClean := by
  cases h with
  | value h | firstItem h => exact h.isClean
  | emptyArray | closeArray => exact isClean_deliver fun members hm => absurd hm (by simp)
  | emptyObject stack =>
    apply isClean_deliver
    rintro members ⟨⟩
    exact List.nodup_nil
  | closeObject stack hnone =>
    apply isClean_deliver
    rintro members ⟨⟩
    exact firstRepeated_nil_eq_none_iff.mp hnone
  | firstKey | key | colon | nextItem | nextMember =>
    intro v hv
    exact absurd hv (by simp)

theorem hasDistinctKeys_of_run {s : ReaderState} {ls : List Lexeme} {v : Json} (hs : s.IsClean)
    (h : s.run ls = .ok v) : v.HasDistinctKeys := by
  induction ls generalizing s with
  | nil => exact hs v (finish_eq_ok_iff.mp h)
  | cons l ls ih =>
    obtain ⟨s', hstep, h⟩ := run_cons_eq_ok_iff.mp h
    exact ih hstep.isClean h

/-- An object that a document holds has no repeated keys. -/
theorem hasDistinctKeys_of_read {document : List Char} {v : Json} (h : read document = .ok v) :
    v.HasDistinctKeys := by
  apply hasDistinctKeys_of_run _ (read_eq_ok_iff.mp h)
  intro v hv
  exact absurd hv (by simp)

end Phrasebook.Json
