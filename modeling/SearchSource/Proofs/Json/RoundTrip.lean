import SearchSource.Proofs.Entries
import SearchSource.Proofs.Json.Escapes
import SearchSource.Proofs.Json.Numerals

/-! What a JSON text tells of the value it was written for. Main statement: `read_write`. -/
namespace SearchSource.Json
open SearchSource.Number

/-- Values that JSON has a form for, fractions left out: whole numbers of no more digits than a
numeral may have, texts, sequences, and mappings with distinct keys. -/
inductive Expressible : Value → Prop
  | null : Expressible .null
  | bool (b : Bool) : Expressible (.bool b)
  | int {n : Int} (h : n.natAbs < 10 ^ digitLimit) : Expressible (.int n)
  | text (s : String) : Expressible (.text s)
  | constant (c : Constant) : Expressible (.constant c)
  | list {vs : List Value} (h : ∀ v ∈ vs, Expressible v) : Expressible (.list vs)
  | tuple {vs : List Value} (h : ∀ v ∈ vs, Expressible v) : Expressible (.tuple vs)
  | object {es : List (String × Value)} (hkeys : (Entries.keys es).Nodup)
    (h : ∀ e ∈ es, Expressible e.2) :
    Expressible (.object es)

/-- Numbers of two digits are short enough. -/
theorem expressible_int {n : Int} (h : n.natAbs < 10 ^ 2) : Expressible (.int n) :=
  .int (Nat.lt_of_lt_of_le h (Nat.pow_le_pow_right (by decide) (by decide)))

theorem Expressible.writable {v : Value} (h : Expressible v) : Writable v := by
  induction h with
  | int hn =>
    refine ⟨nofun, ?_⟩
    rintro n ⟨⟩
    exact hn
  | list _ ih => exact writable_list ih
  | tuple _ ih => exact writable_tuple ih
  | object _ _ ih => exact writable_object ih
  | _ => exact ⟨nofun, nofun⟩

mutual

/-- What a text tells of a value: a tuple is a list, and a constant is a text. -/
def decoded : Value → Value
  | .constant c => .text c.word
  | .list vs => .list (decodedItems vs)
  | .tuple vs => .list (decodedItems vs)
  | .object es => .object (decodedEntries es)
  | v => v

def decodedItems : List Value → List Value
  | [] => []
  | v :: vs => decoded v :: decodedItems vs

def decodedEntries : List (String × Value) → List (String × Value)
  | [] => []
  | (k, v) :: es => (k, decoded v) :: decodedEntries es

end

theorem decodedItems_eq_self {vs : List Value} (h : ∀ v ∈ vs, decoded v = v) :
    decodedItems vs = vs := by
  induction vs with
  | nil => rfl
  | cons v vs ih =>
    obtain ⟨hv, hvs⟩ := List.forall_mem_cons.mp h
    rw [decodedItems, hv, ih hvs]

theorem decodedEntries_eq_self {es : List (String × Value)} (h : ∀ e ∈ es, decoded e.2 = e.2) :
    decodedEntries es = es := by
  induction es with
  | nil => rfl
  | cons e es ih =>
    obtain ⟨k, v⟩ := e
    obtain ⟨hv, hes⟩ := List.forall_mem_cons.mp h
    rw [decodedEntries, hv, ih hes]

/-- A value in which there is no tuple and no constant is told as it is. -/
theorem Expressible.decoded_eq_self {v : Value} (h : Expressible v)
    (htuples : ∀ vs, ¬Value.Part (.tuple vs) v) (hconstants : ∀ c, ¬Value.Part (.constant c) v) :
    decoded v = v := by
  induction h with
  | constant c => exact absurd .whole (hconstants c)
  | tuple => exact absurd .whole (htuples _)
  | list _ ih =>
    rw [decoded, decodedItems_eq_self]
    intro v hv
    exact ih v hv (fun vs hp => htuples vs (.item hv hp)) fun c hp => hconstants c (.item hv hp)
  | object _ _ ih =>
    rw [decoded, decodedEntries_eq_self]
    intro e he
    exact ih e he (fun vs hp => htuples vs (.entry he hp)) fun c hp => hconstants c (.entry he hp)
  | _ => rfl

/-- What the text of a value begins with: no blank, not the end of a list, and not the mark that may
open bytes. -/
def Starts (cs : List Char) : Prop :=
  ∃ c more, cs = c :: more ∧ isSpace c = false ∧ c ≠ ']' ∧ c ≠ byteOrderMark

theorem skipSpace_of_head {cs : List Char} (h : ∀ c ∈ cs.head?, isSpace c = false) (k : Nat) :
    Cursor.skipSpace ⟨cs, k⟩ = ⟨cs, k⟩ := by
  cases cs with
  | nil => rfl
  | cons c more =>
    have hc : isSpace c = false := h c rfl
    simp [Cursor.skipSpace, Cursor.advance, hc]

theorem Starts.append {cs : List Char} (h : Starts cs) (rest : List Char) :
    Starts (cs ++ rest) := by
  obtain ⟨c, more, rfl, hc⟩ := h
  exact ⟨c, more ++ rest, rfl, hc⟩

theorem Starts.skipSpace {cs : List Char} (h : Starts cs) (k : Nat) :
    Cursor.skipSpace ⟨cs, k⟩ = ⟨cs, k⟩ := by
  obtain ⟨c, more, rfl, hspace, -⟩ := h
  exact skipSpace_of_head (by simpa using hspace) k

/-- The blank behind a comma or a colon is passed over. -/
theorem Starts.skipBlank {cs : List Char} (h : Starts cs) (k : Nat) :
    Cursor.skipSpace ⟨' ' :: cs, k⟩ = ⟨cs, k + 1⟩ := by
  obtain ⟨c, more, rfl, hspace, -⟩ := h
  have hblank : isSpace ' ' = true := rfl
  simp [Cursor.skipSpace, Cursor.advance, hspace, hblank]

theorem Ends.skipSpace {rest : List Char} (h : Ends rest) (k : Nat) :
    Cursor.skipSpace ⟨rest, k⟩ = ⟨rest, k⟩ := by
  rcases h.cases with rfl | ⟨c, more, rfl, rfl | rfl | rfl⟩ <;>
    exact skipSpace_of_head (by simp [isSpace]) k

variable {style : Style}

/-- The text of a value is read back, whatever ends it. -/
structure ReadsBack (style : Style) (v : Value) : Prop where
  starts : Starts (chars style v)
  reads : ∀ {fuel k : Nat} {rest : List Char}, 2 * (chars style v).length ≤ fuel → Ends rest →
    ∃ k', readValue fuel ⟨chars style v ++ rest, k⟩ = .ok (decoded v, ⟨rest, k'⟩)

theorem ends_comma (more : List Char) : Ends (',' :: more) := by
  rintro c ⟨⟩
  exact .inl rfl

theorem ends_bracket (more : List Char) : Ends (']' :: more) := by
  rintro c ⟨⟩
  exact .inr (.inl rfl)

theorem ends_brace (more : List Char) : Ends ('\x7d' :: more) := by
  rintro c ⟨⟩
  exact .inr (.inr rfl)

theorem itemChars_cons (v w : Value) (vs : List Value) :
    itemChars style (v :: w :: vs) = chars style v ++ ',' :: ' ' :: itemChars style (w :: vs) := by
  rw [itemChars]
  simp

theorem starts_itemChars {vs : List Value} (hne : vs ≠ []) (h : ∀ v ∈ vs, ReadsBack style v) :
    Starts (itemChars style vs) := by
  cases vs with
  | nil => exact absurd rfl hne
  | cons v vs =>
    have hv := (h v (by simp)).starts
    cases vs with
    | nil =>
      rw [itemChars]
      exact hv
    | cons w vs =>
      rw [itemChars_cons]
      exact hv.append _

section Steps

variable {fuel k : Nat} {v : Value} {c c' : Cursor} {rest : List Char}

theorem readItems_last (hv : readValue fuel c = .ok (v, c'))
    (hc : c'.skipSpace = ⟨']' :: rest, k⟩) (read : List Value) :
    readItems (fuel + 1) read c = .ok (.list (read.reverse ++ [v]), ⟨rest, k + 1⟩) := by
  simp only [readItems, hv, bind, Except.bind, hc, List.reverse_cons]
  rfl

theorem readItems_next (hv : readValue fuel c = .ok (v, c'))
    (hc : c'.skipSpace = ⟨',' :: rest, k⟩) (read : List Value) :
    readItems (fuel + 1) read c = readItems fuel (v :: read) (Cursor.skipSpace ⟨rest, k + 1⟩) := by
  simp only [readItems, hv, bind, Except.bind, hc]
  rfl

end Steps

theorem readItems_itemChars {vs : List Value} (hne : vs ≠ []) (h : ∀ v ∈ vs, ReadsBack style v)
    {fuel : Nat} (hfuel : 2 * (itemChars style vs).length + 1 ≤ fuel) (read : List Value)
    (rest : List Char) (k : Nat) :
    ∃ k', readItems fuel read ⟨itemChars style vs ++ ']' :: rest, k⟩ =
      .ok (.list (read.reverse ++ decodedItems vs), ⟨rest, k'⟩) := by
  induction vs generalizing fuel read k with
  | nil => exact absurd rfl hne
  | cons v vs ih =>
    obtain ⟨fuel, rfl⟩ : ∃ n, fuel = n + 1 := Nat.exists_eq_add_one.mpr (by omega)
    cases vs with
    | nil =>
      rw [itemChars] at hfuel ⊢
      have hv : 2 * (chars style v).length ≤ fuel := by omega
      obtain ⟨k', hread⟩ := (h v (by simp)).reads (k := k) hv (ends_bracket rest)
      exact ⟨k' + 1, readItems_last hread ((ends_bracket rest).skipSpace k') read⟩
    | cons w vs =>
      rw [itemChars_cons, List.length_append, List.length_cons, List.length_cons] at hfuel
      have hv : 2 * (chars style v).length ≤ fuel := by omega
      have hvs : 2 * (itemChars style (w :: vs)).length + 1 ≤ fuel := by omega
      have hrest : ∀ u ∈ w :: vs, ReadsBack style u := fun u hu => h u (List.mem_cons_of_mem v hu)
      have hstarts : Starts (itemChars style (w :: vs) ++ ']' :: rest) :=
        (starts_itemChars (List.cons_ne_nil w vs) hrest).append _
      obtain ⟨k', hread⟩ :=
        (h v (by simp)).reads (k := k) hv
          (ends_comma (' ' :: (itemChars style (w :: vs) ++ ']' :: rest)))
      obtain ⟨k'', hmore⟩ := ih (List.cons_ne_nil w vs) hrest hvs (decoded v :: read) (k' + 1 + 1)
      refine ⟨k'', ?_⟩
      rw [itemChars_cons, List.append_assoc, List.cons_append, List.cons_append,
        readItems_next hread ((ends_comma _).skipSpace k'), hstarts.skipBlank, hmore,
        List.reverse_cons, List.append_assoc]
      rfl

theorem entryChars_cons (k j : String) (v w : Value) (es : List (String × Value)) :
    entryChars style ((k, v) :: (j, w) :: es) =
      textChars style.asciiOnly k ++ ':' :: ' ' ::
        (chars style v ++ ',' :: ' ' :: entryChars style ((j, w) :: es)) := by
  rw [entryChars]
  · simp
  · simp

theorem starts_textChars (asciiOnly : Bool) (s : String) : Starts (textChars asciiOnly s) :=
  ⟨'"', _, rfl, rfl, by decide, by decide⟩

theorem exists_quote_entryChars (style : Style) {es : List (String × Value)} (hne : es ≠ []) :
    ∃ more, entryChars style es = '"' :: more := by
  match es with
  | [(k, v)] =>
    rw [entryChars]
    exact ⟨_, rfl⟩
  | (k, v) :: (j, w) :: es =>
    rw [entryChars_cons]
    exact ⟨_, rfl⟩

theorem starts_entryChars {es : List (String × Value)} (hne : es ≠ []) :
    Starts (entryChars style es) := by
  obtain ⟨more, hquote⟩ := exists_quote_entryChars style hne
  exact ⟨'"', more, hquote, rfl, by decide, by decide⟩

/-- How the entries of an object go on behind one of them. -/
def afterEntry (fuel : Nat) (read : Entries Value) (c : Cursor) : Except Defect (Value × Cursor) :=
  match c.rest with
  | '\x7d' :: _ => .ok (.object read, c.advance 1)
  | ',' :: _ => readEntries fuel read (c.advance 1).skipSpace
  | _ => .error ⟨.commaExpected, c.offset⟩

theorem readEntries_entry {v : Value} (h : ReadsBack style v) {fuel : Nat}
    (hfuel : 2 * (chars style v).length ≤ fuel) {rest : List Char} (hrest : Ends rest)
    (key : String) (read : Entries Value) (k : Nat) :
    ∃ j, readEntries (fuel + 1) read
      ⟨textChars style.asciiOnly key ++ ':' :: ' ' :: (chars style v ++ rest), k⟩ =
      afterEntry fuel (Entries.put key (decoded v) read) ⟨rest, j⟩ := by
  obtain ⟨i, body, hbody, htext⟩ :=
    readText_textChars style.asciiOnly key (':' :: ' ' :: (chars style v ++ rest)) (k + 1)
  obtain ⟨j, hvalue⟩ := h.reads (k := i + 1 + 1) hfuel hrest
  refine ⟨j, ?_⟩
  have htext' :
      readText (Cursor.advance ⟨'"' :: (body ++ ':' :: ' ' :: (chars style v ++ rest)), k⟩ 1) =
      .ok (key, ⟨':' :: ' ' :: (chars style v ++ rest), i⟩) := htext
  have hcolon : Cursor.skipSpace ⟨':' :: ' ' :: (chars style v ++ rest), i⟩ =
      ⟨':' :: ' ' :: (chars style v ++ rest), i⟩ :=
    skipSpace_of_head (by simp [isSpace]) i
  have hblank : (Cursor.advance ⟨':' :: ' ' :: (chars style v ++ rest), i⟩ 1).skipSpace =
      ⟨chars style v ++ rest, i + 1 + 1⟩ := (h.starts.append rest).skipBlank (i + 1)
  rw [hbody, List.cons_append]
  simp only [readEntries, htext', bind, Except.bind, hcolon, hblank, hvalue, hrest.skipSpace j]
  rfl

theorem readEntries_entryChars {es : List (String × Value)} (hne : es ≠ [])
    (h : ∀ e ∈ es, ReadsBack style e.2) {read : Entries Value}
    (hkeys : (read.keys ++ Entries.keys es).Nodup) {fuel : Nat}
    (hfuel : 2 * (entryChars style es).length + 1 ≤ fuel) (rest : List Char) (k : Nat) :
    ∃ k', readEntries fuel read ⟨entryChars style es ++ '\x7d' :: rest, k⟩ =
      .ok (.object (read ++ decodedEntries es), ⟨rest, k'⟩) := by
  induction es generalizing fuel read k with
  | nil => exact absurd rfl hne
  | cons e es ih =>
    obtain ⟨key, v⟩ := e
    obtain ⟨fuel, rfl⟩ : ∃ n, fuel = n + 1 := Nat.exists_eq_add_one.mpr (by omega)
    have hnew : key ∉ read.keys :=
      fun hm => (List.nodup_append.mp hkeys).2.2 key hm key (by simp) rfl
    have hv : ReadsBack style v := h (key, v) (by simp)
    cases es with
    | nil =>
      rw [entryChars, List.length_append, List.length_cons, List.length_cons] at hfuel
      have hvfuel : 2 * (chars style v).length ≤ fuel := by omega
      obtain ⟨j, hread⟩ := readEntries_entry hv hvfuel (ends_brace rest) key read k
      refine ⟨j + 1, ?_⟩
      rw [entryChars, List.append_assoc, List.cons_append, List.cons_append, hread,
        Entries.put_of_not_mem hnew]
      rfl
    | cons e es =>
      obtain ⟨key', w⟩ := e
      rw [entryChars_cons] at hfuel
      simp only [List.length_append, List.length_cons] at hfuel
      have hrest : ∀ e ∈ (key', w) :: es, ReadsBack style e.2 :=
        fun e he => h e (List.mem_cons_of_mem _ he)
      have hkeys' :
          (Entries.keys (read ++ [(key, decoded v)]) ++ Entries.keys ((key', w) :: es)).Nodup := by
        rw [Entries.keys_append, List.append_assoc]
        exact hkeys
      have hvfuel : 2 * (chars style v).length ≤ fuel := by omega
      have hesfuel : 2 * (entryChars style ((key', w) :: es)).length + 1 ≤ fuel := by omega
      obtain ⟨j, hread⟩ := readEntries_entry hv hvfuel
        (ends_comma (' ' :: (entryChars style ((key', w) :: es) ++ '\x7d' :: rest))) key read k
      have hstarts : Starts (entryChars style ((key', w) :: es) ++ '\x7d' :: rest) :=
        (starts_entryChars (List.cons_ne_nil _ _)).append _
      obtain ⟨k', hmore⟩ := ih (List.cons_ne_nil _ _) hrest hkeys' hesfuel (j + 1 + 1)
      refine ⟨k', ?_⟩
      have happend : entryChars style ((key, v) :: (key', w) :: es) ++ '\x7d' :: rest =
          textChars style.asciiOnly key ++ ':' :: ' ' ::
            (chars style v ++ ',' :: ' ' ::
                (entryChars style ((key', w) :: es) ++ '\x7d' :: rest)) := by
        rw [entryChars_cons]
        simp
      have hnext : ∀ (read : Entries Value) (more : List Char),
          afterEntry fuel read ⟨',' :: more, j⟩ =
            readEntries fuel read (Cursor.skipSpace ⟨more, j + 1⟩) := fun _ _ => rfl
      rw [happend, hread, hnext, hstarts.skipBlank, Entries.put_of_not_mem hnew, hmore,
        List.append_assoc]
      rfl

/-- A value takes one step at least. -/
theorem ReadsBack.of_step {v : Value} (hstarts : Starts (chars style v))
    (h : ∀ {fuel k : Nat} {rest : List Char}, 2 * (chars style v).length ≤ fuel + 1 → Ends rest →
      ∃ k', readValue (fuel + 1) ⟨chars style v ++ rest, k⟩ = .ok (decoded v, ⟨rest, k'⟩)) :
    ReadsBack style v := by
  refine ⟨hstarts, ?_⟩
  intro fuel k rest hfuel hrest
  obtain ⟨c, more, hcs, -⟩ := hstarts
  have hpos : 0 < fuel := by
    rw [hcs, List.length_cons] at hfuel
    omega
  obtain ⟨fuel, rfl⟩ := Nat.exists_eq_add_one.mpr hpos
  exact h hfuel hrest

theorem readsBack_null : ReadsBack style .null := by
  refine .of_step ⟨'n', _, rfl, rfl, by decide, by decide⟩ ?_
  intro fuel k rest _ _
  exact ⟨k + 4, rfl⟩

theorem readsBack_bool (b : Bool) : ReadsBack style (.bool b) := by
  cases b with
  | false =>
    refine .of_step ⟨'f', _, rfl, rfl, by decide, by decide⟩ ?_
    intro fuel k rest _ _
    exact ⟨k + 5, rfl⟩
  | true =>
    refine .of_step ⟨'t', _, rfl, rfl, by decide, by decide⟩ ?_
    intro fuel k rest _ _
    exact ⟨k + 4, rfl⟩

/-- A value that is written as a text is read as this text. -/
theorem readsBack_of_text {v : Value} {s : String}
    (hchars : chars style v = textChars style.asciiOnly s) (hdecoded : decoded v = .text s) :
    ReadsBack style v := by
  refine .of_step (hchars ▸ starts_textChars style.asciiOnly s) ?_
  intro fuel k rest _ _
  obtain ⟨k', body, hbody, hread⟩ := readText_textChars style.asciiOnly s rest (k + 1)
  have hread' : readText (Cursor.advance ⟨'"' :: (body ++ rest), k⟩ 1) = .ok (s, ⟨rest, k'⟩) :=
    hread
  refine ⟨k', ?_⟩
  rw [hchars, hdecoded, hbody, List.cons_append]
  simp only [readValue, hread', bind, Except.bind]
  rfl

theorem readWord?_eq_none {cs : List Char} (h : ∀ w ∈ words, w.1.isPrefixOf cs = false) (k : Nat) :
    readWord? ⟨cs, k⟩ = none := by
  rw [readWord?, List.find?_eq_none.mpr]
  · rfl
  · intro w hw
    rw [h w hw]
    decide

theorem readWord?_digit {c : Char} (hc : c.isDigit) (cs : List Char) (k : Nat) :
    readWord? ⟨c :: cs, k⟩ = none := by
  apply readWord?_eq_none
  have hheads : ∀ w ∈ words, ∃ x more, w.1 = x :: more ∧ x.isDigit = false := by
    simp only [words, List.forall_mem_cons]
    exact ⟨⟨_, _, rfl, rfl⟩, ⟨_, _, rfl, rfl⟩, ⟨_, _, rfl, rfl⟩, ⟨_, _, rfl, rfl⟩, ⟨_, _, rfl, rfl⟩,
      ⟨_, _, rfl, rfl⟩, nofun⟩
  intro w hw
  obtain ⟨x, more, hx, hdigit⟩ := hheads w hw
  rw [hx, List.isPrefixOf, beq_false_of_ne (Ne.symm (ne_of_isDigit hc hdigit)), Bool.false_and]

theorem readWord?_minus {c : Char} (hc : c.isDigit) (cs : List Char) (k : Nat) :
    readWord? ⟨'-' :: c :: cs, k⟩ = none := by
  apply readWord?_eq_none
  have hI : c ≠ 'I' := ne_of_isDigit hc rfl
  simp only [words, List.forall_mem_cons]
  refine ⟨rfl, rfl, rfl, rfl, rfl, ?_, nofun⟩
  have hword : "-Infinity".toList = '-' :: 'I' :: "nfinity".toList := rfl
  rw [hword, List.isPrefixOf, List.isPrefixOf, beq_false_of_ne (Ne.symm hI), Bool.false_and,
    Bool.and_false]

/-- What begins like no text, list, object or word is a number. -/
theorem readValue_number {c : Char} {cs : List Char} {k : Nat} (hquote : c ≠ '"')
    (hbrace : c ≠ '\x7b')
    (hbracket : c ≠ '[') (hword : readWord? ⟨c :: cs, k⟩ = none) (fuel : Nat) :
    readValue (fuel + 1) ⟨c :: cs, k⟩ = readNumber ⟨c :: cs, k⟩ := by
  rw [readValue]
  split
  · next heq => exact absurd (List.cons.inj heq).1 hquote
  · next heq => exact absurd (List.cons.inj heq).1 hbrace
  · next heq => exact absurd (List.cons.inj heq).1 hbracket
  · rw [hword]
    rfl

theorem readsBack_int {n : Int} (hn : n.natAbs < 10 ^ digitLimit) : ReadsBack style (.int n) := by
  obtain ⟨d, ds, hds, hd⟩ := exists_digit_numeral n.natAbs
  have htext : (toString n).toList = if n < 0 then '-' :: d :: ds else d :: ds := by
    rw [toList_toString, hds]
  refine .of_step ?_ ?_
  · rw [chars, htext]
    split
    · exact ⟨'-', _, rfl, rfl, by decide, by decide⟩
    · refine ⟨d, ds, rfl, ?_, ne_of_isDigit hd rfl, ne_of_isDigit hd rfl⟩
      simp only [isSpace, Bool.or_eq_false_iff, decide_eq_false_iff_not]
      exact ⟨⟨⟨ne_of_isDigit hd rfl, ne_of_isDigit hd rfl⟩, ne_of_isDigit hd rfl⟩,
        ne_of_isDigit hd rfl⟩
  · intro fuel k rest hfuel hrest
    rw [chars]
    obtain ⟨k', hread⟩ := readNumber_toString hn hrest k
    refine ⟨k', ?_⟩
    have hdecoded : decoded (.int n) = .int n := rfl
    rw [hdecoded, ← hread, htext]
    split
    · exact readValue_number (by decide) (by decide) (by decide) (readWord?_minus hd _ k) fuel
    · exact readValue_number (ne_of_isDigit hd rfl) (ne_of_isDigit hd rfl) (ne_of_isDigit hd rfl)
        (readWord?_digit hd _ k) fuel

theorem readValue_list {cs : List Char} (h : Starts cs) (fuel k : Nat) :
    readValue (fuel + 1) ⟨'[' :: cs, k⟩ = readItems fuel [] ⟨cs, k + 1⟩ := by
  have hskip : (Cursor.advance ⟨'[' :: cs, k⟩ 1).skipSpace = ⟨cs, k + 1⟩ := h.skipSpace (k + 1)
  obtain ⟨c, more, rfl, -, hend, -⟩ := h
  simp only [readValue, hskip]
  split
  · next heq => exact absurd (List.cons.inj heq).1 hend
  · rfl

theorem readValue_object {cs : List Char} (fuel k : Nat) :
    readValue (fuel + 1) ⟨'\x7b' :: '"' :: cs, k⟩ = readEntries fuel [] ⟨'"' :: cs, k + 1⟩ := by
  have hskip : (Cursor.advance ⟨'\x7b' :: '"' :: cs, k⟩ 1).skipSpace = ⟨'"' :: cs, k + 1⟩ :=
    skipSpace_of_head (by simp [isSpace]) (k + 1)
  simp only [readValue, hskip]
  rfl

/-- A list or a tuple is read as the list of its items. -/
theorem readsBack_of_items {v : Value} {vs : List Value}
    (hchars : chars style v = '[' :: itemChars style vs ++ [']'])
    (hdecoded : decoded v = .list (decodedItems vs)) (h : ∀ v ∈ vs, ReadsBack style v) :
    ReadsBack style v := by
  refine .of_step ⟨'[', _, hchars, rfl, by decide, by decide⟩ ?_
  intro fuel k rest hfuel _
  rw [hchars] at hfuel ⊢
  rw [hdecoded]
  by_cases hvs : vs = []
  · subst hvs
    exact ⟨k + 2, rfl⟩
  · have hitems : 2 * (itemChars style vs).length + 1 ≤ fuel := by
      simp only [List.length_append, List.length_cons, List.length_nil] at hfuel
      omega
    obtain ⟨k', hread⟩ := readItems_itemChars hvs h hitems [] rest (k + 1)
    refine ⟨k', ?_⟩
    rw [List.append_assoc, List.cons_append, List.singleton_append,
      readValue_list ((starts_itemChars hvs h).append _), hread]
    rfl

theorem readsBack_object {es : List (String × Value)} (hkeys : (Entries.keys es).Nodup)
    (h : ∀ e ∈ es, ReadsBack style e.2) : ReadsBack style (.object es) := by
  have hchars : chars style (.object es) = '\x7b' :: entryChars style es ++ ['\x7d'] := by
    rw [chars]
  refine .of_step ⟨'\x7b', _, hchars, rfl, by decide, by decide⟩ ?_
  intro fuel k rest hfuel _
  rw [hchars] at hfuel ⊢
  rw [decoded]
  by_cases hes : es = []
  · subst hes
    exact ⟨k + 2, rfl⟩
  · have hentries : 2 * (entryChars style es).length + 1 ≤ fuel := by
      simp only [List.length_append, List.length_cons, List.length_nil] at hfuel
      omega
    have hempty : (Entries.keys ([] : Entries Value) ++ Entries.keys es).Nodup := hkeys
    obtain ⟨k', hread⟩ := readEntries_entryChars hes h hempty hentries rest (k + 1)
    obtain ⟨more, hquote⟩ := exists_quote_entryChars style hes
    refine ⟨k', ?_⟩
    rw [hquote, List.cons_append] at hread
    rw [List.append_assoc, List.cons_append, List.singleton_append, hquote, List.cons_append,
      readValue_object, hread]
    rfl

theorem Expressible.readsBack {v : Value} (h : Expressible v) : ReadsBack style v := by
  induction h with
  | null => exact readsBack_null
  | bool b => exact readsBack_bool b
  | int hn => exact readsBack_int hn
  | text s => exact readsBack_of_text (by rw [chars]) rfl
  | constant c => exact readsBack_of_text (by rw [chars]) rfl
  | list _ ih => exact readsBack_of_items (by rw [chars]) rfl ih
  | tuple _ ih => exact readsBack_of_items (by rw [chars]) rfl ih
  | object hkeys _ ih => exact readsBack_object hkeys ih

/-- The text that is written for a value is read as what it tells of the value. -/
theorem read_write (style : Style) {v : Value} (h : Expressible v) :
    read (write style v) = .ok (decoded v) := by
  have hback : ReadsBack style v := h.readsBack
  have hfuel : 2 * (chars style v).length ≤ 2 * (chars style v).length + 2 := Nat.le_add_right _ _
  have hnil : Ends [] := nofun
  obtain ⟨k, hread⟩ := hback.reads (k := 0) hfuel hnil
  rw [List.append_nil] at hread
  have hmark : (chars style v).head? ≠ some byteOrderMark := by
    obtain ⟨c, more, hcs, -, -, hc⟩ := hback.starts
    rw [hcs]
    simpa using hc
  rw [read, write, String.toList_ofList, if_neg hmark]
  simp only [readAll, hback.starts.skipSpace, hread, bind, Except.bind, hnil.skipSpace]
  rfl

end SearchSource.Json
