import Mathlib
import Phrasebook.Proofs.Outcome
import Phrasebook.Toml.Reader

/-! The tables of a document. Headers, dotted keys and inline tables put them together piece by
piece, and no table that is read has a key twice, however deep it stands. -/

namespace Phrasebook.Toml

variable {ε α β : Type} {P : α → Prop} {Q : β → Prop} {t : Entries} {v : Value} {k : Text}
  {p : Progress} {steps room : Nat} {cs : List Char}

/-! ### Results -/

/-- Whatever an outcome gives has a property. -/
def Yields (P : α → Prop) (o : Except ε α) : Prop :=
  ∀ a, o = .ok a → P a

theorem yields_ok {a : α} (h : P a) : Yields P (.ok a : Except ε α) := by
  rintro _ ⟨⟩
  exact h

theorem yields_error {e : ε} : Yields P (.error e : Except ε α) :=
  fun _ h => nomatch h

theorem yields_bind {x : Except ε α} {f : α → Except ε β}
    (h : ∀ a, x = .ok a → Yields Q (f a)) : Yields Q (x >>= f) := by
  cases x with
  | error e => exact yields_error
  | ok a => exact h a rfl

/-! ### Tables with distinct keys -/

/-- A table that a value is, or that stands in it within no other table. -/
inductive Value.Holds : Value → Entries → Prop
  | table {t : Entries} : Holds (.table t) t
  | latest {t : Entries} {earlier : List Entries} : Holds (.tables t earlier) t
  | earlier {t latest : Entries} {earlier : List Entries} (h : t ∈ earlier) :
      Holds (.tables latest earlier) t
  | item {items : List Value} {v : Value} {t : Entries} (hv : v ∈ items) (h : Holds v t) :
      Holds (.array items) t

/-- A table that has no key twice, and in which every table is like that. -/
inductive Entries.HasDistinctKeys : Entries → Prop
  | intro {t : Entries} (keys : (t.map (·.1)).Nodup)
      (held : ∀ e ∈ t, ∀ inner, e.2.Holds inner → HasDistinctKeys inner) : HasDistinctKeys t

/-- A value in which no table has a key twice. -/
def Value.HasDistinctKeys (v : Value) : Prop :=
  ∀ t, v.Holds t → t.HasDistinctKeys

theorem Entries.hasDistinctKeys_iff :
    t.HasDistinctKeys ↔ (t.map (·.1)).Nodup ∧ ∀ e ∈ t, e.2.HasDistinctKeys := by
  constructor
  · rintro ⟨hkeys, hheld⟩
    exact ⟨hkeys, hheld⟩
  · rintro ⟨hkeys, hheld⟩
    exact .intro hkeys hheld

namespace Value

@[simp] theorem hasDistinctKeys_table : (table t).HasDistinctKeys ↔ t.HasDistinctKeys := by
  constructor
  · exact fun h => h t .table
  · rintro h _ ⟨⟩
    exact h

@[simp] theorem hasDistinctKeys_tables {earlier : List Entries} :
    (tables t earlier).HasDistinctKeys ↔
      t.HasDistinctKeys ∧ ∀ inner ∈ earlier, Entries.HasDistinctKeys inner := by
  constructor
  · exact fun h => ⟨h t .latest, fun inner hinner => h inner (.earlier hinner)⟩
  · rintro ⟨hlatest, hearlier⟩ inner hinner
    cases hinner with
    | latest => exact hlatest
    | earlier hmem => exact hearlier inner hmem

@[simp] theorem hasDistinctKeys_array {items : List Value} :
    (array items).HasDistinctKeys ↔ ∀ v ∈ items, v.HasDistinctKeys := by
  constructor
  · exact fun h v hv t ht => h t (.item hv ht)
  · rintro h t ht
    cases ht with
    | item hv ht => exact h _ hv t ht

end Value

namespace Entries

theorem hasDistinctKeys_nil : HasDistinctKeys [] :=
  hasDistinctKeys_iff.mpr ⟨List.nodup_nil, by simp⟩

theorem HasDistinctKeys.of_lookup (h : t.HasDistinctKeys) (hk : t.lookup k = some v) :
    v.HasDistinctKeys := by
  obtain ⟨before, after, rfl, _⟩ := List.lookup_eq_some_iff.mp hk
  exact (hasDistinctKeys_iff.mp h).2 (k, v) (by simp)

theorem any_key_iff : t.any (·.1 == k) = true ↔ k ∈ t.map (·.1) := by
  simp [List.any_eq_true, List.mem_map, and_comm]

theorem HasDistinctKeys.append (h : t.HasDistinctKeys) (hv : v.HasDistinctKeys)
    (hk : k ∉ t.map (·.1)) : HasDistinctKeys (t ++ [(k, v)]) := by
  obtain ⟨hkeys, hheld⟩ := hasDistinctKeys_iff.mp h
  refine hasDistinctKeys_iff.mpr ⟨?_, ?_⟩
  · rw [List.map_append, List.map_singleton, ← List.concat_eq_append, List.nodup_concat]
    exact ⟨hk, hkeys⟩
  · rw [List.forall_mem_append, List.forall_mem_singleton]
    exact ⟨hheld, hv⟩

theorem HasDistinctKeys.put (h : t.HasDistinctKeys) (hv : v.HasDistinctKeys) :
    (t.put k v).HasDistinctKeys := by
  unfold Entries.put
  split_ifs with hk
  · obtain ⟨hkeys, hheld⟩ := hasDistinctKeys_iff.mp h
    have hsame : (t.map fun e => if e.1 == k then (k, v) else e).map (·.1) = t.map (·.1) := by
      rw [List.map_map]
      refine List.map_congr_left fun e _ => ?_
      by_cases he : e.1 = k <;> simp [he]
    refine hasDistinctKeys_iff.mpr ⟨hsame ▸ hkeys, ?_⟩
    rw [List.forall_mem_map]
    intro e he
    split_ifs
    · exact hv
    · exact hheld e he
  · exact h.append hv (any_key_iff.not.mp hk)

/-- Changing one table keeps the keys of all tables distinct, if it keeps those of that one. -/
theorem yields_change {f : Entries → Except Complaint Entries}
    (hf : ∀ t : Entries, t.HasDistinctKeys → Yields HasDistinctKeys (f t)) (key : Key)
    (h : t.HasDistinctKeys) : Yields HasDistinctKeys (t.change f key) := by
  induction key generalizing t with
  | nil => exact hf t h
  | cons k ks ih =>
    unfold Entries.change
    split
    next =>
      -- A table on the way that is missing is made of the empty one.
      refine yields_bind fun inner hinner => yields_ok (h.put ?_)
      exact Value.hasDistinctKeys_table.mpr (ih hasDistinctKeys_nil inner hinner)
    next inner hlookup =>
      have hinner := Value.hasDistinctKeys_table.mp (h.of_lookup hlookup)
      refine yields_bind fun inner' hinner' => yields_ok (h.put ?_)
      exact Value.hasDistinctKeys_table.mpr (ih hinner inner' hinner')
    next latest earlier hlookup =>
      have ⟨hlatest, hearlier⟩ := Value.hasDistinctKeys_tables.mp (h.of_lookup hlookup)
      refine yields_bind fun latest' hlatest' => yields_ok (h.put ?_)
      exact Value.hasDistinctKeys_tables.mpr ⟨ih hlatest latest' hlatest', hearlier⟩
    next => exact yields_error

theorem yields_add (h : t.HasDistinctKeys) (hv : v.HasDistinctKeys) :
    Yields HasDistinctKeys (t.add k v) := by
  unfold Entries.add
  split_ifs with hk
  · exact yields_error
  · exact yields_ok (h.append hv (any_key_iff.not.mp hk))

theorem yields_addTable (h : t.HasDistinctKeys) : Yields HasDistinctKeys (t.addTable k) := by
  unfold Entries.addTable
  split
  next hlookup =>
    refine yields_ok (h.append ?_ (lookup_eq_none_iff.mp hlookup))
    exact Value.hasDistinctKeys_tables.mpr ⟨hasDistinctKeys_nil, by simp⟩
  next latest earlier hlookup =>
    have ⟨hlatest, hearlier⟩ := Value.hasDistinctKeys_tables.mp (h.of_lookup hlookup)
    refine yields_ok (h.put (Value.hasDistinctKeys_tables.mpr ⟨hasDistinctKeys_nil, ?_⟩))
    exact List.forall_mem_cons.mpr ⟨hlatest, hearlier⟩
  next => exact yields_error

end Entries

/-! ### Values -/

theorem yields_readDecimal? {o : Except Fault (Value × List Char)} (h : readDecimal? cs = some o) :
    Yields (fun a => a.1.HasDistinctKeys) o := by
  unfold readDecimal? at h
  dsimp only at h
  split_ifs at h <;> cases h
  · exact yields_ok fun _ ht => nomatch ht
  · exact yields_error
  · exact yields_ok fun _ ht => nomatch ht

theorem hasDistinctKeys_readBased? {a : Value × List Char} (h : readBased? cs = some a) :
    a.1.HasDistinctKeys := by
  unfold readBased? at h
  split at h
  · split at h
    · dsimp only at h
      split_ifs at h
      cases h
      exact fun _ ht => nomatch ht
    · exact nomatch h
  · exact nomatch h

theorem yields_readNumber? {o : Except Fault (Value × List Char)} (h : readNumber? cs = some o) :
    Yields (fun a => a.1.HasDistinctKeys) o := by
  unfold readNumber? at h
  split at h
  · next found hfound =>
    cases h
    exact yields_ok (hasDistinctKeys_readBased? hfound)
  · dsimp only at h
    split at h
    · next outcome hdecimal =>
      cases h
      split at hdecimal
      · exact yields_readDecimal? hdecimal
      · exact nomatch hdecimal
    · obtain ⟨rest, _, rfl⟩ := Option.map_eq_some_iff.mp h
      exact yields_ok fun _ ht => nomatch ht

theorem yields_readUnquoted (cs : List Char) :
    Yields (fun a => a.1.HasDistinctKeys) (readUnquoted cs) := by
  unfold readUnquoted
  split
  · exact yields_ok fun _ ht => nomatch ht
  · exact yields_error
  · split
    · exact yields_ok fun _ ht => nomatch ht
    · split
      · next outcome h => exact yields_readNumber? h
      · exact yields_error

theorem yields_putInline {closed : List Key} {key : Key} (h : t.HasDistinctKeys)
    (hv : v.HasDistinctKeys) : Yields Entries.HasDistinctKeys (putInline closed key v t) := by
  unfold putInline
  dsimp only
  split_ifs
  · exact yields_error
  · refine Entries.yields_change (fun inner hinner => ?_) _ h
    split_ifs with hk
    · exact yields_error
    · exact yields_ok (hinner.append hv (Entries.any_key_iff.not.mp hk))

/-- What the readers of nested values give where they may take a number of steps. What is read of an
array or a table so far is distinct already. -/
structure DistinctNested (steps : Nat) : Prop where
  value : ∀ room cs, Yields (fun a => a.1.HasDistinctKeys) (readValue steps room cs)
  items : ∀ room done cs, (∀ v ∈ done, v.HasDistinctKeys) →
    Yields (fun a => a.1.HasDistinctKeys) (readItems steps room done cs)
  members : ∀ room closed t cs, t.HasDistinctKeys →
    Yields (fun a => a.1.HasDistinctKeys) (readMembers steps room closed t cs)

theorem distinctNested_zero : DistinctNested 0 where
  value room cs := by unfold readValue; exact yields_error
  items room done cs _ := by unfold readItems; exact yields_error
  members room closed t cs _ := by unfold readMembers; exact yields_error

theorem DistinctNested.value_succ (h : DistinctNested steps) (room : Nat) (cs : List Char) :
    Yields (fun a => a.1.HasDistinctKeys) (readValue (steps + 1) room cs) := by
  unfold readValue
  split
  · exact yields_error
  · next c rest =>
    split_ifs
    · exact yields_bind fun _ _ => yields_ok fun _ ht => nomatch ht
    · exact yields_ok fun _ ht => nomatch ht
    · exact yields_ok fun _ ht => nomatch ht
    · exact yields_error
    · exact yields_bind fun rest _ => h.items _ _ _ (by simp)
    · exact yields_error
    · split
      · exact yields_ok (Value.hasDistinctKeys_table.mpr Entries.hasDistinctKeys_nil)
      · exact h.members _ _ _ _ Entries.hasDistinctKeys_nil
    · exact yields_readUnquoted _

theorem DistinctNested.items_succ (h : DistinctNested steps) (room : Nat) (done : List Value)
    (cs : List Char) (hdone : ∀ v ∈ done, v.HasDistinctKeys) :
    Yields (fun a => a.1.HasDistinctKeys) (readItems (steps + 1) room done cs) := by
  have harray {items : List Value} (hitems : ∀ v ∈ items, v.HasDistinctKeys) :
      (Value.array items.reverse).HasDistinctKeys := by
    simpa using hitems
  unfold readItems
  split
  · exact yields_ok (harray hdone)
  · refine yields_bind fun ⟨v, rest⟩ hvalue => ?_
    have hnext : ∀ v' ∈ v :: done, v'.HasDistinctKeys :=
      List.forall_mem_cons.mpr ⟨h.value _ _ _ hvalue, hdone⟩
    refine yields_bind fun rest _ => ?_
    split
    · exact yields_ok (harray hnext)
    · exact yields_bind fun more _ => h.items _ _ _ hnext
    · exact yields_error

theorem DistinctNested.members_succ (h : DistinctNested steps) (room : Nat) (closed : List Key)
    (t : Entries) (cs : List Char) (ht : t.HasDistinctKeys) :
    Yields (fun a => a.1.HasDistinctKeys) (readMembers (steps + 1) room closed t cs) := by
  unfold readMembers
  refine yields_bind fun ⟨key, rest⟩ _ => ?_
  refine yields_bind fun ⟨v, rest⟩ hvalue => ?_
  dsimp only
  split
  · exact yields_error
  · next t' hput =>
    have ht' : t'.HasDistinctKeys := yields_putInline ht (h.value _ _ _ hvalue) t' hput
    split
    · exact yields_ok (Value.hasDistinctKeys_table.mpr ht')
    · exact h.members _ _ _ _ ht'
    · exact yields_error

theorem distinctNested (steps : Nat) : DistinctNested steps := by
  induction steps with
  | zero => exact distinctNested_zero
  | succ steps ih => exact ⟨ih.value_succ, ih.items_succ, ih.members_succ⟩

/-! ### Statements -/

theorem Progress.yields_openTable (h : p.table.HasDistinctKeys) (key : Key) :
    Yields (fun p => p.table.HasDistinctKeys) (p.openTable key) := by
  unfold Progress.openTable
  dsimp only
  split_ifs
  · exact yields_error
  · refine yields_bind fun t ht => yields_ok ?_
    exact Entries.yields_change (fun _ hinner => yields_ok hinner) key h t ht

theorem Progress.yields_openArrayTable (h : p.table.HasDistinctKeys) (key : Key) :
    Yields (fun p => p.table.HasDistinctKeys) (p.openArrayTable key) := by
  unfold Progress.openArrayTable
  dsimp only
  split_ifs
  · exact yields_error
  · refine yields_bind fun t ht => yields_ok ?_
    exact Entries.yields_change (fun _ hinner => Entries.yields_addTable hinner) _ h t ht

theorem Progress.yields_assign (h : p.table.HasDistinctKeys) (key : Key) (hv : v.HasDistinctKeys) :
    Yields (fun p => p.table.HasDistinctKeys) (p.assign key v) := by
  unfold Progress.assign
  dsimp only
  split
  · exact yields_error
  · split
    · exact yields_error
    · refine yields_bind fun t ht => yields_ok ?_
      exact Entries.yields_change (fun _ hinner => Entries.yields_add hinner hv) _ h t ht

theorem yields_complainAt {here : List Char} {o : Except Complaint α} (h : Yields P o) :
    Yields P (complainAt here o) := by
  cases o with
  | ok a => exact yields_ok (h a rfl)
  | error complaint => exact yields_error

theorem yields_readStatement (steps : Nat) (h : p.table.HasDistinctKeys) (cs : List Char) :
    Yields (fun a => a.1.table.HasDistinctKeys) (readStatement steps p cs) := by
  unfold readStatement
  split
  · refine yields_bind fun ⟨key, rest⟩ _ => yields_bind fun p' hp' => ?_
    have ht := yields_complainAt (p.yields_openArrayTable h key) p' hp'
    split
    · exact yields_ok ht
    · exact yields_error
  · refine yields_bind fun ⟨key, rest⟩ _ => yields_bind fun p' hp' => ?_
    have ht := yields_complainAt (p.yields_openTable h key) p' hp'
    split
    · exact yields_ok ht
    · exact yields_error
  · exact yields_ok h
  · split_ifs
    · refine yields_bind fun ⟨key, rest⟩ _ => yields_bind fun ⟨v, rest⟩ hvalue => ?_
      have hv : v.HasDistinctKeys := (distinctNested steps).value _ _ _ hvalue
      refine yields_bind fun p' hp' => yields_ok ?_
      exact yields_complainAt (p.yields_assign h key hv) p' hp'
    · exact yields_error
  · exact yields_ok h

theorem yields_readStatements (steps : Nat) (h : p.table.HasDistinctKeys) (cs : List Char) :
    Yields Entries.HasDistinctKeys (readStatements steps p cs) := by
  induction steps generalizing p cs with
  | zero => exact yields_ok h
  | succ steps ih =>
    unfold readStatements
    split
    · exact yields_ok h
    · exact ih h _
    · refine yields_bind fun ⟨p', rest⟩ hp' => yields_bind fun rest _ => ?_
      have ht : p'.table.HasDistinctKeys := yields_readStatement steps h _ _ hp'
      split
      · exact yields_ok ht
      · exact ih ht _
      · exact yields_error

/-- No table of a document that is read has a key twice. -/
theorem hasDistinctKeys_of_read {document : List Char} (h : read document = .ok t) :
    t.HasDistinctKeys :=
  yields_readStatements _ Entries.hasDistinctKeys_nil document t h

end Phrasebook.Toml
