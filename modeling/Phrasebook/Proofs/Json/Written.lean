import Mathlib
import Phrasebook.Json.Writer
import Phrasebook.Proofs.Json.FlatObject
import Phrasebook.Proofs.Text.Ascii

/-! Written values read back, if they are not nested too deeply, their integers do not have too many
digits, their texts have no surrogates, and the keys of their objects differ. A value is read from
any state that waits for one, and from any document that goes on behind it, so the induction is on
the value alone. -/

namespace Phrasebook.Json

/-- A value that reads back where `room` more arrays and objects may be open. -/
inductive Writable : Nat → Json → Prop
  | null {room : Nat} : Writable room .null
  | boolean {room : Nat} (b : Bool) : Writable room (.boolean b)
  | integer {room : Nat} {n : Int} (h : (Nat.toDigits 10 n.natAbs).length ≤ Numeral.maxDigits) :
      Writable room (.integer n)
  | text {room : Nat} {t : Text} (h : t.IsEncodable) : Writable room (.text t)
  | array {room : Nat} {items : List Json} (h : ∀ v ∈ items, Writable room v) :
      Writable (room + 1) (.array items)
  | object {room : Nat} {members : List (Text × Json)} (hkeys : (members.map (·.1)).Nodup)
      (htexts : ∀ m ∈ members, m.1.IsEncodable) (h : ∀ m ∈ members, Writable room m.2) :
      Writable (room + 1) (.object members)

theorem writtenItems_cons_cons (v w : Json) (vs : List Json) :
    writtenItems (v :: w :: vs) = written v ++ ", " ++ writtenItems (w :: vs) := by
  rw [writtenItems]
  exact List.cons_ne_nil w vs

theorem writtenMembers_cons_cons (m m' : Text × Json) (ms : List (Text × Json)) :
    writtenMembers (m :: m' :: ms) =
      writtenText m.1 ++ ": " ++ written m.2 ++ ", " ++ writtenMembers (m' :: ms) := by
  obtain ⟨k, v⟩ := m
  rw [writtenMembers]
  exact List.cons_ne_nil m' ms

/-! ### Texts -/

theorem unitEscape_hex {n : Nat} (h : n < 0x20) :
    UnitEscape ('\\' :: 'u' :: (Text.hex 4 n).chars) n := by
  have hhex : ∀ n < 0x20, (Text.hex 4 n).chars =
      ['0', '0', (n / 16).digitChar, (n % 16).digitChar] := by decide
  have hdigit : ∀ d < 16, (d.digitChar, d) ∈ hexDigits := by decide
  have hzero := hdigit 0 (by omega)
  have hescape := UnitEscape.mk hzero hzero (hdigit (n / 16) (by omega))
    (hdigit (n % 16) (by omega))
  have hvalue : ((0 * 16 + 0) * 16 + n / 16) * 16 + n % 16 = n := by omega
  rw [hvalue] at hescape
  rw [hhex n h]
  exact hescape

theorem Body.cons_escaped {c : CodePoint} (hc : c.isSurrogate = false) {cs : List Char} {t : Text}
    (h : Body cs t) : Body ((escapedPoint c).chars ++ cs) (c :: t) := by
  obtain ⟨ch, rfl⟩ := CodePoint.exists_ofChar hc
  have hletter {l ch : Char} (hl : (l, ch) ∈ letters) : Body ('\\' :: l :: cs) (.ofChar ch :: t) :=
    .letter hl h
  unfold escapedPoint
  split_ifs with hquote hescape hline hreturn htab hfeed hback hcontrol
  · exact hquote ▸ hletter (by decide)
  · exact hescape ▸ hletter (by decide)
  · exact hline ▸ hletter (by decide)
  · exact hreturn ▸ hletter (by decide)
  · exact htab ▸ hletter (by decide)
  · exact hfeed ▸ hletter (by decide)
  · exact hback ▸ hletter (by decide)
  · have hunit := unitEscape_hex hcontrol
    have halone := Body.alone hunit (fun hhigh => absurd hhigh.1 (by omega)) h
    rw [CodePoint.ofNat_eq rfl] at halone
    simpa using halone
  · have hplain {d : Char} (hne : CodePoint.ofChar ch ≠ .ofChar d) : ch ≠ d :=
      fun heq => hne (congrArg _ heq)
    simpa using h.plain (hplain hquote) (hplain hescape) (Nat.not_lt.mp hcontrol)

theorem literal_writtenText {t : Text} (h : t.IsEncodable) : Literal (writtenText t).chars t := by
  have hbody : Body (Text.chars (t.flatMap escapedPoint)) t := by
    induction t with
    | nil => exact .nil
    | cons c t ih =>
      rw [Text.isEncodable_cons] at h
      rw [List.flatMap_cons, Text.chars_append]
      exact (ih h.2).cons_escaped h.1
  exact ⟨_, hbody, by simp [writtenText]⟩

/-! ### Integers -/

/-- What does not go on with a number. -/
def EndsNumber (cs : List Char) : Prop :=
  ∀ c ∈ cs.head?, c.isDigit = false ∧ c ∉ ['.', 'e', 'E']

theorem endsNumber_nil : EndsNumber [] := by
  simp [EndsNumber]

theorem endsNumber_cons {c : Char} (h : c.isDigit = false ∧ c ∉ ['.', 'e', 'E']) (cs : List Char) :
    EndsNumber (c :: cs) := by
  simpa [EndsNumber] using h

theorem value_toDigits (n : Nat) : Numeral.value 10 (Nat.toDigits 10 n) = n := by
  have hdigit : ∀ d < 10, Numeral.digit? d.digitChar = some d := by decide
  induction n using Nat.strong_induction_on with
  | _ n ih =>
    by_cases hn : n < 10
    · simp [Nat.toDigits_of_lt_base hn, Numeral.value, hdigit n hn]
    · have hlast := hdigit (n % 10) (Nat.mod_lt n (by decide))
      have hfront := ih (n / 10) (by omega)
      rw [Numeral.value] at hfront
      rw [Nat.toDigits_of_base_le (by decide) (by omega), Numeral.value, List.foldl_append, hfront]
      simp only [List.foldl_cons, List.foldl_nil, hlast, Option.getD_some]
      omega

/-- The digits of a number begin with a zero only if it is zero. -/
theorem exists_toDigits (n : Nat) : ∃ d ds, d < 10 ∧ Nat.toDigits 10 n = d.digitChar :: ds ∧
    (d = 0 → n = 0) := by
  induction n using Nat.strong_induction_on with
  | _ n ih =>
    by_cases hn : n < 10
    · exact ⟨n, [], hn, Nat.toDigits_of_lt_base hn, id⟩
    · obtain ⟨d, ds, hd, hdigits, hzero⟩ := ih (n / 10) (by omega)
      refine ⟨d, ds ++ [(n % 10).digitChar], hd, ?_, fun h => absurd (hzero h) (by omega)⟩
      rw [Nat.toDigits_of_base_le (by decide) (by omega), hdigits]
      rfl

theorem integerDigits_toDigits (n : Nat) {rest : List Char} (h : EndsNumber rest) :
    integerDigits (Nat.toDigits 10 n ++ rest) = Nat.toDigits 10 n := by
  have hrun : leadingDigits (Nat.toDigits 10 n ++ rest) = Nat.toDigits 10 n := by
    have hdigits : ∀ c ∈ Nat.toDigits 10 n, c.isDigit = true :=
      fun c hc => Nat.isDigit_of_mem_toDigits (by decide) (by decide) hc
    have hrest : rest.takeWhile Char.isDigit = [] := by
      cases rest with
      | nil => rfl
      | cons c rest => simp [(h c rfl).1]
    rw [leadingDigits, List.takeWhile_append_of_pos hdigits, hrest, List.append_nil]
  obtain ⟨d, ds, hd, hdigits, hzero⟩ := exists_toDigits n
  by_cases hd0 : d = 0
  · obtain rfl := hzero hd0
    rfl
  · have hne : d.digitChar ≠ '0' := by
      have hall : ∀ d < 10, d ≠ 0 → d.digitChar ≠ '0' := by decide
      exact hall d hd hd0
    rw [hdigits] at hrun ⊢
    rw [List.cons_append] at hrun ⊢
    unfold integerDigits
    split
    next heq => exact absurd (List.cons.inj heq).1 hne
    next => exact hrun

theorem number?_toDigits (negative : Bool) {n : Nat} {rest : List Char} (h : EndsNumber rest)
    (hn : (Nat.toDigits 10 n).length ≤ Numeral.maxDigits) :
    number? negative (Nat.toDigits 10 n ++ rest) =
      some (.integer (if negative then -n else n), rest) := by
  have hfraction : fractionLength rest = 0 := by
    unfold fractionLength
    split
    next => exact absurd (h '.' rfl).2 (by decide)
    next => rfl
  have hexponent : exponentLength rest = 0 := by
    unfold exponentLength
    split
    next e cs =>
      have he := (h e rfl).2
      rw [if_neg]
      rintro (rfl | rfl) <;> exact absurd he (by decide)
    next => rfl
  have hnonempty : (Nat.toDigits 10 n).isEmpty = false := by
    simp [Nat.toDigits_ne_nil]
  simp [number?, integerDigits_toDigits n h, hfraction, hexponent, hnonempty, Nat.not_lt.mpr hn,
    value_toDigits]

/-! ### Pieces -/

/-- Whether a piece is read as a token from a document that goes on with `more`. -/
def Opens (piece : List Char) (t : Token) (more : List Char) : Prop :=
  ∃ c rest, piece = c :: rest ∧ isSpace c = false ∧ nextToken c (rest ++ more) = (t, more)

theorem Spells.opens {piece : List Char} {t : Token} (h : Spells piece t) (more : List Char) :
    Opens piece t more := by
  obtain ⟨c, rest, hpiece, hspace, hnext⟩ := nextToken_of_spells h
  exact ⟨c, rest, hpiece, hspace, hnext more⟩

/-- A document that begins with a digit begins with a number. -/
theorem nextToken_digit {d : Nat} (hd : d < 10) (rest : List Char) :
    nextToken d.digitChar rest =
      (number? false (d.digitChar :: rest)).getD (.stray, rest) := by
  have hall : ∀ d < 10, d.digitChar ∉ ['\x7b', '\x7d', '[', ']', ',', ':', '"', '-'] ∧
      words d.digitChar = none := by decide
  obtain ⟨hmark, hwords⟩ := hall d hd
  unfold nextToken
  split
  case h_8 =>
    have hminus : d.digitChar ≠ '-' := fun h => hmark (by simp [h])
    rw [word?, hwords, if_neg hminus]
    cases number? false (d.digitChar :: rest) <;> rfl
  all_goals simp_all

/-- The marks that stand alone, those of arrays included. -/
theorem opens_mark {c : Char} {t : Token}
    (h : (c, t) ∈ ('[', .openBracket) :: (']', .closeBracket) :: marks) (more : List Char) :
    Opens [c] t more := by
  simp only [List.mem_cons, Prod.mk.injEq] at h
  obtain ⟨rfl, rfl⟩ | ⟨rfl, rfl⟩ | h := h
  · exact ⟨'[', [], rfl, rfl, rfl⟩
  · exact ⟨']', [], rfl, rfl, rfl⟩
  · exact (Spells.mark h).opens more

theorem opens_integer {n : Int} (hn : (Nat.toDigits 10 n.natAbs).length ≤ Numeral.maxDigits)
    {more : List Char} (h : EndsNumber more) :
    Opens (writtenInteger n).chars (.integer n) more := by
  have hword {d : Nat} (hd : d < 10) (rest : List Char) : isSpace d.digitChar = false ∧
      word? '-' (d.digitChar :: rest) = none := by
    interval_cases d <;> exact ⟨rfl, rfl⟩
  cases n with
  | ofNat n =>
    have hnumber : number? false (Nat.toDigits 10 n ++ more) = some (.integer n, more) :=
      number?_toDigits false h hn
    obtain ⟨d, ds, hd, hdigits, -⟩ := exists_toDigits n
    refine ⟨d.digitChar, ds, by simp [writtenInteger, Text.ofNat, hdigits], (hword hd []).1, ?_⟩
    rw [nextToken_digit hd, ← List.cons_append, ← hdigits, hnumber]
    rfl
  | negSucc n =>
    have hnumber : number? true (Nat.toDigits 10 (n + 1) ++ more) =
        some (.integer (.negSucc n), more) :=
      number?_toDigits true h hn
    obtain ⟨d, ds, hd, hdigits, -⟩ := exists_toDigits (n + 1)
    have hnone : word? '-' (Nat.toDigits 10 (n + 1) ++ more) = none := by
      rw [hdigits]
      exact (hword hd _).2
    refine ⟨'-', Nat.toDigits 10 (n + 1), by simp [writtenInteger, Text.ofNat], rfl, ?_⟩
    simp [nextToken, hnone, hnumber]

/-! ### Reading on -/

namespace ReaderState

/-- What comes of a document that the reader has come to. -/
def reads (s : ReaderState) (cs : List Char) : Except Fault Json :=
  s.run (lexemes cs)

theorem reads_blank (s : ReaderState) {c : Char} (h : isSpace c = true) (rest : List Char) :
    s.reads (c :: rest) = s.reads rest := by
  rw [reads, lexemes_blank h, reads]

theorem reads_cons (s : ReaderState) {c : Char} (h : isSpace c = false) (rest : List Char) :
    s.reads (c :: rest) =
      s.take (nextToken c rest).1 (c :: rest) >>= fun s' => s'.reads (nextToken c rest).2 := by
  rw [reads, lexemes_cons h, run]
  cases s.take (nextToken c rest).1 (c :: rest) <;> rfl

/-- A state takes a piece as the token that it is read as. -/
theorem reads_piece {s s' : ReaderState} {piece more : List Char} {t : Token}
    (h : Opens piece t more) (htake : ∀ here, s.take t here = .ok s') :
    s.reads (piece ++ more) = s'.reads more := by
  obtain ⟨c, rest, rfl, hspace, hnext⟩ := h
  rw [List.cons_append, reads_cons s hspace, hnext, htake]
  rfl

theorem reads_mark {s s' : ReaderState} {c : Char} {t : Token} {more : List Char}
    (h : (c, t) ∈ ('[', .openBracket) :: (']', .closeBracket) :: marks)
    (htake : ∀ here, s.take t here = .ok s') : s.reads (c :: more) = s'.reads more :=
  reads_piece (opens_mark h more) htake

theorem reads_text {s s' : ReaderState} {t : Text} {more : List Char} (h : t.IsEncodable)
    (htake : ∀ here, s.take (.text t) here = .ok s') :
    s.reads ((writtenText t).chars ++ more) = s'.reads more :=
  reads_piece ((Spells.text (literal_writtenText h)).opens more) htake

/-- A state that waits for a value, `stack` being open around it. -/
def Awaits (s : ReaderState) (stack : List Frame) : Prop :=
  ∀ t here, t ≠ .closeBracket → s.take t here = beginValue stack t here

theorem awaits_value (stack : List Frame) : Awaits ⟨stack, .value⟩ stack :=
  fun _ _ _ => rfl

theorem awaits_firstItem (stack : List Frame) :
    Awaits ⟨stack, .firstItem⟩ (.array [] :: stack) := by
  intro t here ht
  cases t <;> first | rfl | exact absurd rfl ht

end ReaderState

/-- A value that is read wherever `room` more arrays and objects may be open. -/
def ReadsBack (room : Nat) (v : Json) : Prop :=
  ∀ (stack : List Frame) (s : ReaderState) (more : List Char), s.Awaits stack →
    stack.length + room ≤ maxDepth → EndsNumber more →
    s.reads ((written v).chars ++ more) = (deliver stack v).reads more

section Reading

variable {room : Nat} {stack : List Frame} {s : ReaderState}

theorem readsBack_of_opens {v : Json} {t : Token}
    (h : ∀ more, EndsNumber more → Opens (written v).chars t more)
    (hbegin : ∀ stack here, beginValue stack t here = .ok (deliver stack v))
    (ht : t ≠ .closeBracket) : ReadsBack room v := by
  intro stack s more hs _ hmore
  apply ReaderState.reads_piece (h more hmore)
  intro here
  rw [hs t here ht, hbegin]

/-- The items of an array, up to its end. -/
theorem reads_items {v : Json} {vs : List Json} (h : ∀ w ∈ v :: vs, ReadsBack room w)
    {done : List Json} (hs : s.Awaits (.array done :: stack))
    (hroom : stack.length + 1 + room ≤ maxDepth) (more : List Char) :
    s.reads ((writtenItems (v :: vs)).chars ++ ']' :: more) =
      (deliver stack (.array (done.reverse ++ v :: vs))).reads more := by
  rw [List.forall_mem_cons] at h
  induction vs generalizing v s done with
  | nil =>
    have hend := endsNumber_cons (c := ']') (by decide) more
    have hclose (here : List Char) : (deliver (.array done :: stack) v).take .closeBracket here =
        .ok (deliver stack (.array (done.reverse ++ [v]))) := by
      simp [deliver, ReaderState.take]
    rw [writtenItems, h.1 _ _ _ hs hroom hend, ReaderState.reads_mark (by decide) hclose]
  | cons w vs ih =>
    have hrest : (writtenItems (v :: w :: vs)).chars ++ ']' :: more =
        (written v).chars ++ ',' :: ' ' :: ((writtenItems (w :: vs)).chars ++ ']' :: more) := by
      simp [writtenItems_cons_cons]
    have hend := endsNumber_cons (c := ',') (by decide)
      (' ' :: ((writtenItems (w :: vs)).chars ++ ']' :: more))
    have hcomma (here : List Char) : (deliver (.array done :: stack) v).take .comma here =
        .ok ⟨.array (v :: done) :: stack, .value⟩ := rfl
    rw [hrest, h.1 _ _ _ hs hroom hend, ReaderState.reads_mark (by decide) hcomma,
      ReaderState.reads_blank _ rfl,
      ih (List.forall_mem_cons.mp h.2) (ReaderState.awaits_value _)]
    simp

/-- A member is read alike before another one and before the end of the object. -/
theorem reads_member {m : Text × Json} (htext : m.1.IsEncodable) (h : ReadsBack room m.2)
    {done : List (Text × Json)}
    (hs : ∀ key here, s.take (.text key) here = .ok ⟨stack, .colon done key⟩)
    (hroom : stack.length + 1 + room ≤ maxDepth) {more : List Char} (hmore : EndsNumber more) :
    s.reads ((writtenText m.1).chars ++ ':' :: ' ' :: ((written m.2).chars ++ more)) =
      (⟨stack, .memberEnd (m :: done)⟩ : ReaderState).reads more := by
  have hcolon (here : List Char) : (⟨stack, .colon done m.1⟩ : ReaderState).take .colon here =
      .ok ⟨.object done m.1 :: stack, .value⟩ := rfl
  rw [ReaderState.reads_text htext (hs m.1), ReaderState.reads_mark (by decide) hcolon,
    ReaderState.reads_blank _ rfl]
  exact h (.object done m.1 :: stack) _ more (ReaderState.awaits_value _) hroom hmore

/-- The members of an object, up to its end. -/
theorem reads_members {m : Text × Json} {ms : List (Text × Json)}
    (htexts : ∀ m' ∈ m :: ms, m'.1.IsEncodable) (h : ∀ m' ∈ m :: ms, ReadsBack room m'.2)
    {done : List (Text × Json)} (hkeys : ((done.reverse ++ m :: ms).map (·.1)).Nodup)
    (hs : ∀ key here, s.take (.text key) here = .ok ⟨stack, .colon done key⟩)
    (hroom : stack.length + 1 + room ≤ maxDepth) (more : List Char) :
    s.reads ((writtenMembers (m :: ms)).chars ++ '\x7d' :: more) =
      (deliver stack (.object (done.reverse ++ m :: ms))).reads more := by
  rw [List.forall_mem_cons] at htexts h
  induction ms generalizing m s done with
  | nil =>
    have hrest : (writtenMembers [m]).chars ++ '\x7d' :: more =
        (writtenText m.1).chars ++ ':' :: ' ' :: ((written m.2).chars ++ '\x7d' :: more) := by
      simp [writtenMembers]
    have hend := endsNumber_cons (c := '\x7d') (by decide) more
    have hclose (here : List Char) :
        (⟨stack, .memberEnd (m :: done)⟩ : ReaderState).take .closeBrace here =
          .ok (deliver stack (.object (done.reverse ++ [m]))) := by
      have hnone : firstRepeated [] (done.reverse ++ [m]) = none :=
        firstRepeated_nil_eq_none_iff.mpr hkeys
      simp [ReaderState.take, closeObject, hnone]
    rw [hrest, reads_member htexts.1 h.1 hs hroom hend, ReaderState.reads_mark (by decide) hclose]
  | cons m' ms ih =>
    have hrest : (writtenMembers (m :: m' :: ms)).chars ++ '\x7d' :: more =
        (writtenText m.1).chars ++ ':' :: ' ' :: ((written m.2).chars ++
          ',' :: ' ' :: ((writtenMembers (m' :: ms)).chars ++ '\x7d' :: more)) := by
      simp [writtenMembers_cons_cons]
    have hend := endsNumber_cons (c := ',') (by decide)
      (' ' :: ((writtenMembers (m' :: ms)).chars ++ '\x7d' :: more))
    have hcomma (here : List Char) :
        (⟨stack, .memberEnd (m :: done)⟩ : ReaderState).take .comma here =
          .ok ⟨stack, .key (m :: done)⟩ := rfl
    rw [hrest, reads_member htexts.1 h.1 hs hroom hend, ReaderState.reads_mark (by decide) hcomma,
      ReaderState.reads_blank _ rfl,
      ih (List.forall_mem_cons.mp htexts.2) (List.forall_mem_cons.mp h.2) (by simpa using hkeys)
        fun _ _ => rfl]
    simp

/-- Written values are read, and what is open around them stays as it is. -/
theorem readsBack_of_writable {v : Json} (h : Writable room v) : ReadsBack room v := by
  induction h with
  | null =>
    exact readsBack_of_opens (fun _ _ => ⟨'n', ['u', 'l', 'l'], rfl, rfl, rfl⟩)
      (fun _ _ => rfl) (by simp)
  | boolean b =>
    cases b with
    | false =>
      exact readsBack_of_opens (fun _ _ => ⟨'f', ['a', 'l', 's', 'e'], rfl, rfl, rfl⟩)
        (fun _ _ => rfl) (by simp)
    | true =>
      exact readsBack_of_opens (fun _ _ => ⟨'t', ['r', 'u', 'e'], rfl, rfl, rfl⟩)
        (fun _ _ => rfl) (by simp)
  | integer h =>
    exact readsBack_of_opens (fun _ hmore => opens_integer h hmore) (fun _ _ => rfl) (by simp)
  | text h =>
    exact readsBack_of_opens (fun more _ => (Spells.text (literal_writtenText h)).opens more)
      (fun _ _ => rfl) (by simp)
  | @array room items _ ih =>
    intro stack s more hs hroom hmore
    have hopen (here : List Char) : s.take .openBracket here = .ok ⟨stack, .firstItem⟩ := by
      rw [hs _ _ (by simp), beginValue, if_pos (by omega)]
    have hbrackets : (written (.array items)).chars ++ more =
        '[' :: ((writtenItems items).chars ++ ']' :: more) := by
      simp [written]
    rw [hbrackets, ReaderState.reads_mark (by decide) hopen]
    cases items with
    | nil => exact ReaderState.reads_mark (t := .closeBracket) (by decide) fun _ => rfl
    | cons v vs => exact reads_items ih (ReaderState.awaits_firstItem stack) (by omega) more
  | @object room members hkeys htexts _ ih =>
    intro stack s more hs hroom hmore
    have hopen (here : List Char) : s.take .openBrace here = .ok ⟨stack, .firstKey⟩ := by
      rw [hs _ _ (by simp), beginValue, if_pos (by omega)]
    have hbraces : (written (.object members)).chars ++ more =
        '\x7b' :: ((writtenMembers members).chars ++ '\x7d' :: more) := by
      simp [written]
    rw [hbraces, ReaderState.reads_mark (by decide) hopen]
    cases members with
    | nil => exact ReaderState.reads_mark (t := .closeBrace) (by decide) fun _ => rfl
    | cons m ms =>
      have hnone : ((([] : List (Text × Json)).reverse ++ m :: ms).map (·.1)).Nodup := hkeys
      exact reads_members htexts ih hnone (fun _ _ => rfl) (by omega) more

end Reading

/-- A document that is written of a value is read as the value. -/
theorem read_written {v : Json} (h : Writable maxDepth v) : read (written v).chars = .ok v := by
  have hback := readsBack_of_writable h [] _ [] (ReaderState.awaits_value [])
    (Nat.le_of_eq (Nat.zero_add _)) endsNumber_nil
  rw [List.append_nil] at hback
  apply read_eq_ok_iff.mpr
  rw [← ReaderState.reads, hback]
  simp [ReaderState.reads, lexemes, lexemesAfter, deliver, ReaderState.run, ReaderState.finish]

/-! ### What is written -/

theorem not_control_ofNat (n : Nat) : ∀ c ∈ Text.ofNat n, 0x20 ≤ c.val := by
  intro c hc
  obtain ⟨ch, hch, rfl⟩ := List.mem_map.mp hc
  have hdigit := Nat.isDigit_of_mem_toDigits (by decide) (by decide) hch
  simp only [Char.isDigit, Bool.and_eq_true, decide_eq_true_eq, ge_iff_le,
    UInt32.le_iff_toNat_le] at hdigit
  exact le_trans (by decide) hdigit.1

theorem not_control_escapedPoint (c : CodePoint) : ∀ d ∈ escapedPoint c, 0x20 ≤ d.val := by
  unfold escapedPoint
  split_ifs with hquote hescape hline hreturn htab hfeed hback hcontrol
  · decide
  · decide
  · decide
  · decide
  · decide
  · decide
  · decide
  · have hall : ∀ n < 0x20, ∀ d ∈ Text.hex 4 n, 0x20 ≤ d.val := by decide
    exact List.forall_mem_append.mpr ⟨by decide, hall c.val hcontrol⟩
  · simpa using Nat.not_lt.mp hcontrol

theorem not_control_writtenText (t : Text) : ∀ c ∈ writtenText t, 0x20 ≤ c.val := by
  have hbody : ∀ c ∈ t.flatMap escapedPoint, 0x20 ≤ c.val := by
    intro c hc
    obtain ⟨d, _, hc⟩ := List.mem_flatMap.mp hc
    exact not_control_escapedPoint d c hc
  rw [writtenText, List.forall_mem_append, List.forall_mem_append]
  exact ⟨⟨by decide, hbody⟩, by decide⟩

/-- An induction over values in which all items and all members have what is to be shown. -/
@[elab_as_elim]
theorem induction {P : Json → Prop} (null : P .null) (boolean : ∀ b, P (.boolean b))
    (integer : ∀ n, P (.integer n)) (real : P .real) (text : ∀ t, P (.text t))
    (array : ∀ items : List Json, (∀ v ∈ items, P v) → P (.array items))
    (object : ∀ members : List (Text × Json), (∀ m ∈ members, P m.2) → P (.object members))
    (v : Json) : P v := by
  refine @Json.rec P (fun items => ∀ v ∈ items, P v) (fun members => ∀ m ∈ members, P m.2)
    (fun m => P m.2) null boolean integer real text array object ?_ ?_ ?_ ?_ ?_ v
  all_goals simp_all

/-- What holds of the code points of the items and of what stands between them holds of all. -/
theorem forall_mem_writtenItems {P : CodePoint → Prop} {vs : List Json}
    (hcomma : ∀ c ∈ Text.ofString ", ", P c) (h : ∀ v ∈ vs, ∀ c ∈ written v, P c) :
    ∀ c ∈ writtenItems vs, P c := by
  induction vs with
  | nil => simp [writtenItems]
  | cons v vs ih =>
    rw [List.forall_mem_cons] at h
    cases vs with
    | nil => exact h.1
    | cons w vs =>
      rw [writtenItems_cons_cons, List.forall_mem_append, List.forall_mem_append]
      exact ⟨⟨h.1, hcomma⟩, ih h.2⟩

theorem forall_mem_writtenMembers {P : CodePoint → Prop} {ms : List (Text × Json)}
    (hcomma : ∀ c ∈ Text.ofString ", ", P c) (hcolon : ∀ c ∈ Text.ofString ": ", P c)
    (htexts : ∀ m ∈ ms, ∀ c ∈ writtenText m.1, P c) (h : ∀ m ∈ ms, ∀ c ∈ written m.2, P c) :
    ∀ c ∈ writtenMembers ms, P c := by
  induction ms with
  | nil => simp [writtenMembers]
  | cons m ms ih =>
    rw [List.forall_mem_cons] at htexts h
    cases ms with
    | nil =>
      rw [writtenMembers, List.forall_mem_append, List.forall_mem_append]
      exact ⟨⟨htexts.1, hcolon⟩, h.1⟩
    | cons m' ms =>
      rw [writtenMembers_cons_cons, List.forall_mem_append, List.forall_mem_append,
        List.forall_mem_append, List.forall_mem_append]
      exact ⟨⟨⟨⟨htexts.1, hcolon⟩, h.1⟩, hcomma⟩, ih htexts.2 h.2⟩

/-- What is written holds no control characters below the blank, whatever the value holds. -/
theorem not_control_written (v : Json) : ∀ c ∈ written v, 0x20 ≤ c.val := by
  induction v using Json.induction with
  | null | real => decide
  | boolean b => cases b <;> decide
  | integer n =>
    cases n with
    | ofNat n => exact not_control_ofNat n
    | negSucc n => exact List.forall_mem_append.mpr ⟨by decide, not_control_ofNat (n + 1)⟩
  | text t => exact not_control_writtenText t
  | array items ih =>
    rw [written, List.forall_mem_append, List.forall_mem_append]
    exact ⟨⟨by decide, forall_mem_writtenItems (by decide) ih⟩, by decide⟩
  | object members ih =>
    rw [written, List.forall_mem_append, List.forall_mem_append]
    exact ⟨⟨by decide, forall_mem_writtenMembers (by decide) (by decide)
      (fun m _ => not_control_writtenText m.1) ih⟩, by decide⟩

theorem isEncodable_writtenText {t : Text} (h : t.IsEncodable) : (writtenText t).IsEncodable := by
  have hpoint {c : CodePoint} (hc : c.isSurrogate = false) : (escapedPoint c).IsEncodable := by
    have hhex : (Text.hex 4 c.val).IsEncodable := by
      have hzero : (CodePoint.ofChar '0').isSurrogate = false := by decide
      rw [Text.hex, Text.isEncodable_append]
      exact ⟨fun d hd => List.eq_of_mem_replicate hd ▸ hzero, Text.isEncodable_ofChars _⟩
    unfold escapedPoint
    split_ifs <;> simp [hhex, hc]
  simpa [writtenText] using fun c hc => hpoint (h c hc)

theorem Writable.isEncodable {room : Nat} {v : Json} (h : Writable room v) :
    (written v).IsEncodable := by
  induction h with
  | null => decide
  | boolean b => cases b <;> decide
  | @integer room n h => cases n <;> simp [written, writtenInteger, Text.ofNat]
  | text h => exact isEncodable_writtenText h
  | array _ ih =>
    rw [written, Text.isEncodable_append, Text.isEncodable_append]
    exact ⟨⟨by decide, forall_mem_writtenItems (by decide) ih⟩, by decide⟩
  | object _ htexts _ ih =>
    rw [written, Text.isEncodable_append, Text.isEncodable_append]
    exact ⟨⟨by decide, forall_mem_writtenMembers (by decide) (by decide)
      (fun m hm => isEncodable_writtenText (htexts m hm)) ih⟩, by decide⟩

end Phrasebook.Json
