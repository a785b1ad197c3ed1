import Mathlib
import Phrasebook.Json.Reader
import Phrasebook.Phrases
import Phrasebook.Proofs.Json.Spacing
import Phrasebook.Proofs.Json.Steps

/-! Flat objects of texts: what a document of one looks like, and that the reader gives such an
object for no other document. `Reaches` says which tokens take the reader from a state to the end
with given entries; a step of the reader keeps it in both directions, whatever else the reader may
have open. -/

namespace Phrasebook.Json

/-! ### The grammar -/

/-- The pieces of a member. -/
inductive Member : List (List Char) → Text × Text → Prop
  | mk {k v : List Char} {key value : Text} (hk : Literal k key) (hv : Literal v value) :
      Member [k, [':'], v] (key, value)

/-- A document that is one flat object: the members between braces, with commas between them. -/
def IsFlatObject (document : List Char) (entries : Phrases) : Prop :=
  ∃ members, List.Forall₂ Member members entries ∧
    Spaced ([['\x7b']] ++ List.intercalate [[',']] members ++ [['\x7d']]) document

/-! ### The tokens of a flat object -/

/-- What follows a member. -/
def afterMember : Phrases → List Token
  | [] => [.closeBrace]
  | (key, value) :: es => .comma :: .text key :: .colon :: .text value :: afterMember es

/-- What follows the opening brace. -/
def afterBrace : Phrases → List Token
  | [] => [.closeBrace]
  | (key, value) :: es => .text key :: .colon :: .text value :: afterMember es

theorem afterMember_ne_nil (entries : Phrases) : afterMember entries ≠ [] := by
  cases entries <;> simp [afterMember]

theorem afterBrace_ne_nil (entries : Phrases) : afterBrace entries ≠ [] := by
  cases entries <;> simp [afterBrace]

theorem isPlain_afterMember (entries : Phrases) : ∀ t ∈ afterMember entries, IsPlain t := by
  induction entries with
  | nil => simp [afterMember, IsPlain, marks]
  | cons e es ih =>
    simp only [afterMember, List.forall_mem_cons]
    exact ⟨by simp [IsPlain, marks], by simp [IsPlain], by simp [IsPlain, marks],
      by simp [IsPlain], ih⟩

theorem isPlain_afterBrace (entries : Phrases) : ∀ t ∈ afterBrace entries, IsPlain t := by
  cases entries with
  | nil => simp [afterBrace, IsPlain, marks]
  | cons e es =>
    simp only [afterBrace, List.forall_mem_cons]
    exact ⟨by simp [IsPlain], by simp [IsPlain, marks], by simp [IsPlain],
      isPlain_afterMember es⟩

section Spelled

variable {pieces : List (List Char)} {ts : List Token}

theorem spells_mark {c : Char} {t : Token} (h : (c, t) ∈ marks) :
    List.Forall₂ Spells pieces (t :: ts) ↔
      ∃ ps, List.Forall₂ Spells ps ts ∧ pieces = [c] :: ps := by
  rw [List.forall₂_cons_right_iff]
  constructor
  · rintro ⟨_, ps, hpiece, hps, rfl⟩
    cases hpiece with
    | mark h' =>
      have hall : ∀ p ∈ marks, ∀ q ∈ marks, p.2 = q.2 → p.1 = q.1 := by decide
      obtain rfl := hall _ h' _ h rfl
      exact ⟨ps, hps, rfl⟩
    | text => exact absurd h (by simp [marks])
  · rintro ⟨ps, hps, rfl⟩
    exact ⟨_, ps, .mark h, hps, rfl⟩

theorem spells_text {x : Text} : List.Forall₂ Spells pieces (.text x :: ts) ↔
    ∃ piece ps, Literal piece x ∧ List.Forall₂ Spells ps ts ∧ pieces = piece :: ps := by
  rw [List.forall₂_cons_right_iff]
  constructor
  · rintro ⟨piece, ps, hpiece, hps, rfl⟩
    cases hpiece with
    | mark h => exact absurd h (by simp [marks])
    | text h => exact ⟨_, ps, h, hps, rfl⟩
  · rintro ⟨piece, ps, hpiece, hps, rfl⟩
    exact ⟨_, ps, .text hpiece, hps, rfl⟩

theorem spells_closeBrace :
    List.Forall₂ Spells pieces [.closeBrace] ↔ pieces = [['\x7d']] := by
  rw [spells_mark (c := '\x7d') (t := .closeBrace) (by decide)]
  simp

/-- The pieces that spell the tokens of a member are those of the member. -/
theorem spells_member {key value : Text} :
    List.Forall₂ Spells pieces (.text key :: .colon :: .text value :: ts) ↔
      ∃ m ps, Member m (key, value) ∧ List.Forall₂ Spells ps ts ∧ pieces = m ++ ps := by
  rw [spells_text]
  simp only [spells_mark (c := ':') (t := .colon) (by decide), spells_text]
  constructor
  · rintro ⟨k, _, hk, ⟨_, ⟨v, ps, hv, hps, rfl⟩, rfl⟩, rfl⟩
    exact ⟨_, ps, .mk hk hv, hps, rfl⟩
  · rintro ⟨_, ps, ⟨hk, hv⟩, hps, rfl⟩
    exact ⟨_, _, hk, ⟨_, ⟨_, ps, hv, hps, rfl⟩, rfl⟩, rfl⟩

theorem spells_afterMember {entries : Phrases} :
    List.Forall₂ Spells pieces (afterMember entries) ↔ ∃ members,
      List.Forall₂ Member members entries ∧
        pieces = members.flatMap ([[',']] ++ ·) ++ [['\x7d']] := by
  induction entries generalizing pieces with
  | nil => simp [afterMember, spells_closeBrace]
  | cons e es ih =>
    rw [afterMember, spells_mark (c := ',') (t := .comma) (by decide)]
    simp only [spells_member, ih]
    simp only [List.forall₂_cons_right_iff]
    constructor
    · rintro ⟨_, ⟨m, _, hm, ⟨members, hmembers, rfl⟩, rfl⟩, rfl⟩
      exact ⟨_, ⟨m, members, hm, hmembers, rfl⟩, by simp⟩
    · rintro ⟨_, ⟨m, members, hm, hmembers, rfl⟩, rfl⟩
      exact ⟨_, ⟨m, _, hm, ⟨members, hmembers, rfl⟩, rfl⟩, by simp⟩

theorem intercalate_cons {α : Type} (mark part : List α) (parts : List (List α)) :
    List.intercalate mark (part :: parts) = part ++ parts.flatMap (mark ++ ·) := by
  induction parts generalizing part with
  | nil => simp [List.intercalate]
  | cons next parts ih =>
    rw [List.intercalate_cons_cons, ih, List.flatMap_cons, List.append_assoc, List.append_assoc]

theorem spells_afterBrace {entries : Phrases} :
    List.Forall₂ Spells pieces (afterBrace entries) ↔ ∃ members,
      List.Forall₂ Member members entries ∧
        pieces = List.intercalate [[',']] members ++ [['\x7d']] := by
  cases entries with
  | nil => simp [afterBrace, spells_closeBrace, List.intercalate]
  | cons e es =>
    simp only [afterBrace, spells_member, spells_afterMember]
    simp only [List.forall₂_cons_right_iff]
    constructor
    · rintro ⟨m, _, hm, ⟨members, hmembers, rfl⟩, rfl⟩
      exact ⟨_, ⟨m, members, hm, hmembers, rfl⟩, by simp [intercalate_cons]⟩
    · rintro ⟨_, ⟨m, members, hm, hmembers, rfl⟩, rfl⟩
      exact ⟨m, _, hm, ⟨members, hmembers, rfl⟩, by simp [intercalate_cons]⟩

end Spelled

/-- A document reads as the tokens of a flat object exactly if it is one. -/
theorem tokens_eq_object {document : List Char} {entries : Phrases} :
    tokens document = .openBrace :: afterBrace entries ↔ IsFlatObject document entries := by
  have hplain : ∀ t ∈ Token.openBrace :: afterBrace entries, IsPlain t :=
    List.forall_mem_cons.mpr ⟨by simp [IsPlain, marks], isPlain_afterBrace entries⟩
  simp only [tokens_eq_iff hplain, spells_mark (c := '\x7b') (t := .openBrace) (by decide),
    spells_afterBrace]
  constructor
  · rintro ⟨_, ⟨_, ⟨members, hmembers, rfl⟩, rfl⟩, hspaced⟩
    exact ⟨members, hmembers, hspaced⟩
  · rintro ⟨members, hmembers, hspaced⟩
    exact ⟨_, ⟨_, ⟨members, hmembers, rfl⟩, rfl⟩, hspaced⟩

/-! ### The reader -/

/-- The entries as the members of an object. -/
def asMembers (entries : Phrases) : List (Text × Json) :=
  entries.map fun e => (e.1, .text e.2)

/-- The remaining tokens take the reader from a state to the end, with the object of the entries
as the result. -/
inductive Reaches (entries : Phrases) : ReaderState → List Token → Prop
  | start : Reaches entries ⟨[], .value⟩ (.openBrace :: afterBrace entries)
  | opened : Reaches entries ⟨[], .firstKey⟩ (afterBrace entries)
  | key {read es : Phrases} {key value : Text} (h : entries = read ++ (key, value) :: es) :
      Reaches entries ⟨[], .key (asMembers read).reverse⟩
        (.text key :: .colon :: .text value :: afterMember es)
  | colon {read es : Phrases} {key value : Text} (h : entries = read ++ (key, value) :: es) :
      Reaches entries ⟨[], .colon (asMembers read).reverse key⟩
        (.colon :: .text value :: afterMember es)
  | value {read es : Phrases} {key value : Text} (h : entries = read ++ (key, value) :: es) :
      Reaches entries ⟨[.object (asMembers read).reverse key], .value⟩
        (.text value :: afterMember es)
  | memberEnd {read es : Phrases} (h : entries = read ++ es) :
      Reaches entries ⟨[], .memberEnd (asMembers read).reverse⟩ (afterMember es)
  | finished {stack : List Frame} :
      Reaches entries ⟨stack, .documentEnd (.object (asMembers entries))⟩ []

theorem asMembers_append (read es : Phrases) :
    asMembers (read ++ es) = asMembers read ++ asMembers es := List.map_append

theorem map_fst_asMembers (entries : Phrases) :
    (asMembers entries).map (·.1) = entries.map (·.1) := by
  simp [asMembers]

/-- A step on the right token is possible and keeps the right tokens. -/
theorem Reaches.step {entries : Phrases} (hnodup : (entries.map (·.1)).Nodup) {s : ReaderState}
    {t : Token} {ts : List Token} (h : Reaches entries s (t :: ts)) :
    ∃ s', Step s t s' ∧ Reaches entries s' ts := by
  generalize hts : t :: ts = ts' at h
  cases h with
  | start =>
    obtain ⟨rfl, rfl⟩ := List.cons.inj hts
    exact ⟨_, .value (.openObject (by decide)), .opened⟩
  | opened =>
    cases entries with
    | nil =>
      obtain ⟨rfl, rfl⟩ := List.cons.inj hts
      exact ⟨_, .emptyObject [], .finished⟩
    | cons e es =>
      obtain ⟨rfl, rfl⟩ := List.cons.inj hts
      have hfirst : e :: es = [] ++ e :: es := rfl
      exact ⟨_, .firstKey [] e.1, .colon hfirst⟩
  | @key read es key value h =>
    obtain ⟨rfl, rfl⟩ := List.cons.inj hts
    exact ⟨_, .key [] _ key, .colon h⟩
  | @colon read es key value h =>
    obtain ⟨rfl, rfl⟩ := List.cons.inj hts
    exact ⟨_, .colon [] _ key, .value h⟩
  | @value read es key value h =>
    obtain ⟨rfl, rfl⟩ := List.cons.inj hts
    have hread : entries = (read ++ [(key, value)]) ++ es := by simpa using h
    have hnext := Reaches.memberEnd hread
    rw [asMembers_append, List.reverse_append] at hnext
    exact ⟨_, .value (.text value), hnext⟩
  | @memberEnd read es h =>
    cases es with
    | nil =>
      obtain ⟨rfl, rfl⟩ := List.cons.inj hts
      rw [List.append_nil] at h
      subst h
      have hnone : firstRepeated [] (asMembers entries).reverse.reverse = none := by
        rwa [List.reverse_reverse, firstRepeated_nil_eq_none_iff, map_fst_asMembers]
      have hstep := Step.closeObject [] hnone
      rw [List.reverse_reverse] at hstep
      exact ⟨_, hstep, .finished⟩
    | cons e es =>
      obtain ⟨rfl, rfl⟩ := List.cons.inj hts
      exact ⟨_, .nextMember [] _, .key h⟩
  | finished => exact absurd hts (by simp)

theorem asMembers_eq_nil {entries : Phrases} : asMembers entries = [] ↔ entries = [] :=
  List.map_eq_nil_iff

/-- A value that is delivered on the way to a flat object is the object itself, or the text of a
member. -/
theorem Reaches.of_deliver {entries : Phrases} {stack : List Frame} {v : Json} {ts : List Token}
    (h : Reaches entries (deliver stack v) ts) :
    (stack = [] ∧ v = .object (asMembers entries) ∧ ts = []) ∨
      ∃ x, v = .text x ∧ Reaches entries ⟨stack, .value⟩ (.text x :: ts) := by
  unfold deliver at h
  split at h
  next =>
    cases h
    exact .inl ⟨rfl, rfl, rfl⟩
  next => cases h
  next done key rest =>
    generalize hdone : (key, v) :: done = done' at h
    cases h with
    | @memberEnd read es h =>
      rcases List.eq_nil_or_concat read with rfl | ⟨read, e, rfl⟩
      · exact absurd hdone (by simp [asMembers])
      · rw [List.concat_eq_append, asMembers_append, List.reverse_append] at hdone
        obtain ⟨hlast, rfl⟩ := List.cons.inj hdone
        obtain ⟨rfl, rfl⟩ := Prod.mk.inj hlast
        exact .inr ⟨e.2, rfl, .value (by simpa using h)⟩

theorem Reaches.not_deliver_array {entries : Phrases} {stack : List Frame} {items : List Json}
    {ts : List Token} : ¬Reaches entries (deliver stack (.array items)) ts := by
  intro h
  obtain ⟨-, hobject, -⟩ | ⟨x, htext, -⟩ := h.of_deliver
  · exact absurd hobject (by simp)
  · exact absurd htext (by simp)

theorem Reaches.of_begins {entries : Phrases} {stack : List Frame} {t : Token} {s : ReaderState}
    {ts : List Token} (h : Begins stack t s) (hs : Reaches entries s ts) :
    Reaches entries ⟨stack, .value⟩ (t :: ts) := by
  cases h with
  | openObject =>
    cases hs
    exact .start
  | openArray => cases hs
  | text x =>
    obtain ⟨-, hobject, -⟩ | ⟨x', htext, hreaches⟩ := hs.of_deliver
    · exact absurd hobject (by simp)
    · obtain rfl := Json.text.inj htext
      exact hreaches
  | null | boolean | integer | real =>
    obtain ⟨-, hobject, -⟩ | ⟨x, htext, -⟩ := hs.of_deliver
    · exact absurd hobject (by simp)
    · exact absurd htext (by simp)

theorem Reaches.of_deliver_object {entries : Phrases} {stack : List Frame}
    {members : List (Text × Json)} {ts : List Token}
    (h : Reaches entries (deliver stack (.object members)) ts) :
    stack = [] ∧ members = asMembers entries ∧ ts = [] := by
  obtain ⟨hstack, hobject, hts⟩ | ⟨x, htext, -⟩ := h.of_deliver
  · exact ⟨hstack, Json.object.inj hobject, hts⟩
  · exact absurd htext (by simp)

/-- A step that leads to a state with the right tokens was taken on the right token. -/
theorem Reaches.of_step {entries : Phrases} {s s' : ReaderState} {t : Token} {ts : List Token}
    (h : Step s t s') (hs' : Reaches entries s' ts) : Reaches entries s (t :: ts) := by
  cases h with
  | value h => exact hs'.of_begins h
  | firstItem h => cases hs'.of_begins h
  | emptyArray | closeArray => exact absurd hs' not_deliver_array
  | firstKey stack key =>
    generalize hdone : ([] : List (Text × Json)) = done at hs'
    cases hs' with
    | @colon read es _ _ hentries =>
      obtain rfl := asMembers_eq_nil.mp (List.reverse_eq_nil_iff.mp hdone.symm)
      subst hentries
      exact .opened
  | emptyObject stack =>
    obtain ⟨rfl, hnone, rfl⟩ := hs'.of_deliver_object
    obtain rfl := asMembers_eq_nil.mp hnone.symm
    exact .opened
  | key stack done key =>
    cases hs' with
    | colon hentries => exact .key hentries
  | colon stack done key =>
    cases hs' with
    | value hentries => exact .colon hentries
  | nextItem => cases hs'
  | nextMember stack done =>
    cases hs' with
    | key hentries => exact .memberEnd hentries
  | closeObject stack hnone =>
    obtain ⟨rfl, hdone, rfl⟩ := hs'.of_deliver_object
    rw [List.reverse_eq_iff] at hdone
    have hlast : entries = entries ++ [] := by simp
    exact hdone ▸ .memberEnd hlast

/-- The right tokens are those that the reader takes to the end. -/
theorem run_eq_object {entries : Phrases} (hnodup : (entries.map (·.1)).Nodup) {s : ReaderState}
    {ls : List Lexeme} (h : Reaches entries s (ls.map (·.token))) :
    s.run ls = .ok (.object (asMembers entries)) := by
  induction ls generalizing s with
  | nil =>
    generalize hts : ([] : List Lexeme).map (·.token) = ts at h
    cases h with
    | finished => rfl
    | opened => exact absurd hts.symm (afterBrace_ne_nil entries)
    | memberEnd => exact absurd hts.symm (afterMember_ne_nil _)
    | _ => exact absurd hts (by simp)
  | cons l ls ih =>
    rw [List.map_cons] at h
    obtain ⟨s', hstep, hreaches⟩ := h.step hnodup
    exact run_cons_eq_ok_iff.mpr ⟨s', hstep, ih hreaches⟩

theorem reaches_of_run {entries : Phrases} {s : ReaderState} {ls : List Lexeme}
    (h : s.run ls = .ok (.object (asMembers entries))) :
    Reaches entries s (ls.map (·.token)) := by
  induction ls generalizing s with
  | nil =>
    obtain ⟨stack, expects⟩ := s
    obtain rfl : expects = _ := finish_eq_ok_iff.mp h
    exact .finished
  | cons l ls ih =>
    obtain ⟨s', hstep, h⟩ := run_cons_eq_ok_iff.mp h
    exact (ih h).of_step hstep

/-- The reader gives a flat object of texts exactly for the documents of one whose keys differ. -/
theorem read_eq_object {document : List Char} {entries : Phrases} :
    read document = .ok (.object (asMembers entries)) ↔
      IsFlatObject document entries ∧ (entries.map (·.1)).Nodup := by
  constructor
  · intro h
    have hnodup := hasDistinctKeys_of_read h _ rfl
    rw [map_fst_asMembers] at hnodup
    refine ⟨tokens_eq_object.mp ?_, hnodup⟩
    have hreaches := reaches_of_run (read_eq_ok_iff.mp h)
    generalize hts : (lexemes document).map (·.token) = ts at hreaches
    cases hreaches
    exact hts
  · rintro ⟨hobject, hnodup⟩
    apply read_eq_ok_iff.mpr
    apply run_eq_object hnodup
    have hstart : Reaches entries ⟨[], .value⟩ (.openBrace :: afterBrace entries) := .start
    rwa [← tokens_eq_object.mpr hobject] at hstart

end Phrasebook.Json
