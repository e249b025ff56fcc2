import SearchSource.Proofs.Entries
import SearchSource.Proofs.Text.Separated
import SearchSource.Settings.EnvFile

/-! Files of variables whose lines are `KEY=VALUE` and nothing else. They are read as they are
written. Main statements: `Lines.bindings_eq` and `values_plain`. -/
namespace SearchSource.EnvFile
open Text

/-- A key that no quote, sign, mark or blank cuts short. -/
structure PlainKey (key : List Char) : Prop where
  ne_nil : key ≠ []
  first : ∀ c ∈ key.head?, c ≠ '\'' ∧ c ≠ '\ufeff'
  each : ∀ c ∈ key, c ≠ '=' ∧ c ≠ '#' ∧ c ≠ '\x00' ∧ isBlank c = false

/-- A value on one line, without quotes around it, comments behind it or references in it. -/
structure PlainValue (value : List Char) : Prop where
  bare : BareEnds isBlank value
  unquoted : ∀ c ∈ value.head?, c ≠ '\'' ∧ c ≠ '"'
  each : ∀ c ∈ value, c ≠ '\n' ∧ c ≠ '\r' ∧ c ≠ '\x00'
  no_comment : ∀ c, isBlank c → ¬ [c, '#'] <:+: value
  no_reference : ¬ ['$', '\x7b'] <:+: value

/-- A line that sets a variable, without its end. -/
inductive Line : String × String → List Char → Prop
  | intro {key value : String} (plainKey : PlainKey key.toList)
    (plainValue : PlainValue value.toList) :
    Line (key, value) (key.toList ++ '=' :: value.toList)

/-- The ways to end a line. -/
def lineEnds : List (List Char) := [['\n'], ['\r', '\n'], ['\r']]

/-- The lines of a file; the last one may go without its end. -/
inductive Lines : Entries String → List Char → Prop
  | nil : Lines [] []
  | last {e : String × String} {line : List Char} (h : Line e line) : Lines [e] line
  | cons {e : String × String} {es : Entries String} {line lineEnd cs : List Char} (h : Line e line)
    (hend : lineEnd ∈ lineEnds) (rest : Lines es cs) : Lines (e :: es) (line ++ (lineEnd ++ cs))

/-! ### One line -/

section Stop

variable {p : Char → Bool} {front rest : List Char}

/-- Reading on while a condition holds stops where it does not. -/
theorem takeWhile_stop (hfront : ∀ c ∈ front, p c) (hrest : ∀ c ∈ rest.head?, p c = false) :
    (front ++ rest).takeWhile p = front := by
  rw [List.takeWhile_append_of_pos hfront]
  cases rest with
  | nil => exact List.append_nil front
  | cons c cs => rw [List.takeWhile_cons_of_neg (by simp [hrest c rfl]), List.append_nil]

theorem dropWhile_stop (hfront : ∀ c ∈ front, p c) (hrest : ∀ c ∈ rest.head?, p c = false) :
    (front ++ rest).dropWhile p = rest := by
  rw [List.dropWhile_append_of_pos hfront]
  cases rest with
  | nil => rfl
  | cons c cs => exact List.dropWhile_cons_of_neg (by simp [hrest c rfl])

end Stop

/-- What a line is followed by, and what is left behind its end. -/
inductive EndsLine : List Char → List Char → Prop
  | file : EndsLine [] []
  | line (next : List Char) : EndsLine ('\n' :: next) next

section Parts

variable {key value rest next : List Char}

theorem PlainKey.exists_first (h : PlainKey key) :
    ∃ c cs, key = c :: cs ∧ c ≠ '\'' ∧ c ≠ '#' ∧ c ≠ '\ufeff' ∧ isBlank c = false := by
  obtain ⟨c, cs, rfl⟩ := List.exists_cons_of_ne_nil h.ne_nil
  obtain ⟨hquote, hmark⟩ := h.first c rfl
  obtain ⟨-, hcomment, -, hblank⟩ := h.each c List.mem_cons_self
  exact ⟨c, cs, rfl, hquote, hcomment, hmark, hblank⟩

/-- The word that exports a variable is apart from its key, as there are no blanks in one. -/
theorem dropExport_line (h : PlainKey key) (rest : List Char) :
    dropExport (key ++ '=' :: rest) = key ++ '=' :: rest := by
  refine if_neg ?_
  rintro ⟨hword, hnext⟩
  obtain ⟨behind, hbehind⟩ := List.isPrefixOf_iff_prefix.mp hword
  rw [← hbehind, List.drop_left] at hnext
  cases behind with
  | nil => cases hnext
  | cons c cs =>
    have hblank : isBlank c := (Bool.and_eq_true_iff.mp hnext).1
    have hsign : c ≠ '=' := by
      rintro rfl
      cases hblank
    -- the blank behind the word comes before the first sign, so it is part of the key
    have hkey : (key ++ '=' :: rest).takeWhile (· ≠ '=') = key :=
      takeWhile_stop (fun c hc => by simp [(h.each c hc).1]) (by simp)
    have hword : ∀ c ∈ "export".toList, decide (c ≠ '=') := List.all_eq_true.mp (by decide)
    rw [← hbehind, List.takeWhile_append_of_pos hword,
      List.takeWhile_cons_of_pos (by simpa using hsign)] at hkey
    have hmem : c ∈ key := hkey ▸ List.mem_append_right _ List.mem_cons_self
    simp [(h.each c hmem).2.2.2] at hblank

theorem key?_line (h : PlainKey key) (rest : List Char) :
    key? (key ++ '=' :: rest) = some (key, '=' :: rest) := by
  obtain ⟨c, cs, hcs, hquote, -⟩ := h.exists_first
  have htake :
      (key ++ '=' :: rest).takeWhile (fun c => c ≠ '=' && c ≠ '#' && !isBlank c) = key := by
    refine takeWhile_stop (fun c hc => ?_) ?_
    · obtain ⟨hsign, hcomment, -, hblank⟩ := h.each c hc
      simp [hsign, hcomment, hblank]
    · rintro c ⟨⟩
      rfl
  unfold key?
  split
  · next heq =>
    rw [hcs] at heq
    exact absurd (List.cons.inj heq).1 hquote
  · rw [htake]
    simp [h.ne_nil]

theorem dropComment_plain (h : ∀ c, isBlank c → ¬ [c, '#'] <:+: value) :
    dropComment value = value := by
  induction value with
  | nil => rfl
  | cons c cs ih =>
    have hrest : dropComment cs = cs :=
      ih fun d hd hin => h d hd (hin.trans (List.infix_cons List.infix_rfl))
    rw [dropComment, if_neg, hrest]
    rintro ⟨hblank, hmark⟩
    -- the last of the blanks stands right before the mark
    obtain ⟨after, hafter⟩ : ∃ after, cs.dropWhile isBlank = '#' :: after := by
      cases hdrop : cs.dropWhile isBlank with
      | nil => simp [hdrop] at hmark
      | cons d after =>
        rw [hdrop] at hmark
        exact ⟨after, by rw [Option.some.inj hmark]⟩
    obtain ⟨blanks, last, hblanks⟩ :=
      (List.eq_nil_or_concat (c :: cs.takeWhile isBlank)).resolve_left (by simp)
    have hlast : isBlank last := by
      have hmem : last ∈ c :: cs.takeWhile isBlank := by simp [hblanks]
      rcases List.mem_cons.mp hmem with rfl | hmem
      · exact hblank
      · exact List.mem_takeWhile_imp hmem
    refine h last hlast ⟨blanks, after, ?_⟩
    have hsplit : c :: cs = c :: cs.takeWhile isBlank ++ '#' :: after := by
      rw [List.cons_append, ← hafter, List.takeWhile_append_dropWhile]
    rw [hsplit, hblanks]
    simp

theorem EndsLine.head (h : EndsLine rest next) : ∀ c ∈ rest.head?, c = '\n' := by
  cases h with
  | file => exact nofun
  | line next =>
    rintro c ⟨⟩
    rfl

theorem value_line (h : PlainValue value) (hend : EndsLine rest next) :
    EnvFile.value (value ++ rest) = .ok (value, rest) := by
  have hfirst : ∀ c ∈ (value ++ rest).head?, isSpace c = false ∧ c ≠ '\'' ∧ c ≠ '"' := by
    cases hvalue : value with
    | nil =>
      intro c hc
      rw [hend.head c hc]
      decide
    | cons c cs =>
      rintro d ⟨⟩
      obtain ⟨hquote, hquotes⟩ := h.unquoted c (by rw [hvalue]; rfl)
      have hblank := h.bare.1 c (by rw [hvalue]; rfl)
      exact ⟨by simp [isSpace, hblank], hquote, hquotes⟩
  have hdrop : (value ++ rest).dropWhile isSpace = value ++ rest :=
    @dropWhile_stop isSpace [] _ nofun fun c hc => (hfirst c hc).1
  have hvalue : ∀ c ∈ value, decide (c ≠ '\n') := fun c hc => by simpa using (h.each c hc).1
  have hrest : ∀ c ∈ rest.head?, decide (c ≠ '\n') = false := fun c hc => by simp [hend.head c hc]
  unfold EnvFile.value
  rw [hdrop]
  dsimp only
  split
  · next body heq => exact absurd rfl (hfirst '\'' (by rw [heq]; rfl)).2.1
  · next body heq => exact absurd rfl (hfirst '"' (by rw [heq]; rfl)).2.2
  · rw [takeWhile_stop hvalue hrest, dropWhile_stop hvalue hrest, dropComment_plain h.no_comment,
      trim_of_bareEnds h.bare]

theorem endOfLine?_line (h : EndsLine rest next) : endOfLine? rest = some next := by
  cases h with
  | file => rfl
  | line next => rfl

theorem binding_line {e : String × String} {line : List Char} (h : Line e line)
    (hend : EndsLine rest next) :
    binding (line ++ rest) = .ok (some ⟨e.1, some e.2⟩, next) := by
  cases h with
  | @intro key value hkey hvalue =>
    obtain ⟨c, cs, hcs, -, hcomment, -⟩ := hkey.exists_first
    have hhead : (key.toList ++ '=' :: (value.toList ++ rest)).head? ≠ some '#' := by
      rw [hcs]
      simpa using hcomment
    have hsign :
        ('=' :: (value.toList ++ rest)).dropWhile isSpace = '=' :: (value.toList ++ rest) := rfl
    rw [List.append_assoc, List.cons_append]
    unfold binding
    rw [dropExport_line hkey]
    dsimp only
    rw [if_neg hhead, key?_line hkey]
    simp only [hsign, value_line hvalue hend, bind, Except.bind, endOfLine?_line hend,
      Option.map_some, String.ofList_toList]

end Parts

/-! ### All lines -/

section Characters

theorem alikeLines_append {front : List Char} (h : ∀ c ∈ front, c ≠ '\r') (rest : List Char) :
    alikeLines (front ++ rest) = front ++ alikeLines rest := by
  induction front with
  | nil => rfl
  | cons c cs ih =>
    obtain ⟨hc, hcs⟩ := List.forall_mem_cons.mp h
    rw [List.cons_append, alikeLines, ih hcs, if_neg hc, List.cons_append]
    intro rest hreturn
    exact absurd hreturn hc

theorem alikeLines_lineEnd {lineEnd rest : List Char} (h : lineEnd ∈ lineEnds)
    (hrest : rest.head? ≠ some '\n') :
    alikeLines (lineEnd ++ rest) = '\n' :: alikeLines rest := by
  simp only [lineEnds, List.mem_cons, List.not_mem_nil, or_false] at h
  rcases h with rfl | rfl | rfl
  · rfl
  · rfl
  · cases rest with
    | nil => rfl
    | cons c cs =>
      rw [List.singleton_append, alikeLines, if_pos rfl]
      rintro cs - ⟨⟩
      exact absurd rfl hrest

variable {e : String × String} {es : Entries String} {line cs : List Char}

theorem Line.no_return (h : Line e line) : ∀ c ∈ line, c ≠ '\r' := by
  cases h with
  | @intro key value hkey hvalue =>
    refine List.forall_mem_append.mpr
      ⟨fun c hc => ?_, List.forall_mem_cons.mpr ⟨by decide, fun c hc => ?_⟩⟩
    · rintro rfl
      cases (hkey.each _ hc).2.2.2
    · exact (hvalue.each c hc).2.1

theorem Line.exists_first (h : Line e line) :
    ∃ c rest, line = c :: rest ∧ isBlank c = false ∧ c ≠ '\ufeff' := by
  cases h with
  | @intro key value hkey hvalue =>
    obtain ⟨c, rest, hcs, -, -, hmark, hblank⟩ := hkey.exists_first
    exact ⟨c, rest ++ '=' :: value.toList, by rw [hcs, List.cons_append], hblank, hmark⟩

theorem Line.alikeLines_eq (h : Line e line) : alikeLines line = line := by
  simpa [alikeLines] using alikeLines_append h.no_return []

theorem Lines.head (h : Lines es cs) : ∀ c ∈ cs.head?, isBlank c = false ∧ c ≠ '\ufeff' := by
  have hline {e : String × String} {line rest : List Char} (h : Line e line) :
      ∀ c ∈ (line ++ rest).head?, isBlank c = false ∧ c ≠ '\ufeff' := by
    obtain ⟨d, rest', rfl, hd⟩ := h.exists_first
    rintro c ⟨⟩
    exact hd
  cases h with
  | nil => exact nofun
  | last h => exact List.append_nil cs ▸ hline h
  | cons h hend rest => exact hline h

theorem alikeLines_line (h : Line e line) {lineEnd : List Char} (hend : lineEnd ∈ lineEnds)
    (rest : Lines es cs) :
    alikeLines (line ++ (lineEnd ++ cs)) = line ++ '\n' :: alikeLines cs := by
  have hnext : cs.head? ≠ some '\n' := fun hc => by cases (rest.head _ hc).1
  rw [alikeLines_append h.no_return, alikeLines_lineEnd hend hnext]

theorem Lines.length_le (h : Lines es cs) : es.length ≤ (alikeLines cs).length := by
  induction h with
  | nil => exact Nat.zero_le 0
  | @last e line h =>
    obtain ⟨c, rest, hline, -⟩ := h.exists_first
    rw [h.alikeLines_eq, hline]
    simp
  | @cons e es line lineEnd cs h hend rest ih =>
    rw [alikeLines_line h hend rest, List.length_append, List.length_cons, List.length_cons]
    omega

theorem bindings_line {rest next : List Char} (n : Nat) (h : Line e line)
    (hend : EndsLine rest next) :
    bindings (n + 1) (line ++ rest) = ⟨e.1, some e.2⟩ :: bindings n next := by
  obtain ⟨c, cs, hline, hblank, -⟩ := h.exists_first
  have hdrop : (line ++ rest).dropWhile isBlank = c :: (cs ++ rest) := by
    rw [hline, List.cons_append]
    exact List.dropWhile_cons_of_neg (by simp [hblank])
  have hbinding := binding_line h hend
  rw [hline, List.cons_append] at hbinding
  conv_lhs => unfold bindings
  rw [hdrop]
  simp only [hbinding, Option.toList_some, List.singleton_append]

theorem Lines.bindings_eq (h : Lines es cs) {n : Nat} (hn : es.length ≤ n) :
    bindings n (alikeLines cs) = es.map fun e => ⟨e.1, some e.2⟩ := by
  have hnothing (n : Nat) : bindings n [] = [] := by cases n <;> rfl
  induction h generalizing n with
  | nil => exact hnothing n
  | @last e line h =>
    cases n with
    | zero => exact absurd hn (Nat.not_succ_le_zero 0)
    | succ n =>
      have hlast := bindings_line n h .file
      rw [List.append_nil] at hlast
      rw [h.alikeLines_eq, hlast, hnothing, List.map_singleton]
  | @cons e es line lineEnd cs h hend rest ih =>
    cases n with
    | zero => exact absurd hn (Nat.not_succ_le_zero es.length)
    | succ n =>
      have hothers := ih (Nat.le_of_succ_le_succ hn)
      rw [alikeLines_line h hend rest, bindings_line n h (.line _), hothers, List.map_cons]

end Characters

/-! ### Values -/

theorem reference?_eq_none {cs : List Char} (h : cs.head? ≠ some '\x7b') :
    reference? cs = none := by
  unfold reference?
  split
  · exact absurd rfl h
  · rfl

theorem expand_plain {resolve : Reference → String} {cs : List Char} (h : ¬ ['$', '\x7b'] <:+: cs) :
    expand resolve 0 cs = cs := by
  induction cs with
  | nil => rfl
  | cons c cs ih =>
    have hrest : expand resolve 0 cs = cs :=
      ih fun hin => h (hin.trans (List.infix_cons List.infix_rfl))
    have hnone : (if c = '$' then reference? cs else none) = none := by
      split
      · next hc =>
        refine reference?_eq_none fun hbrace => h ?_
        obtain ⟨after, rfl⟩ : ∃ after, cs = '\x7b' :: after := List.head?_eq_some_iff.mp hbrace
        exact ⟨[], after, by rw [hc]; rfl⟩
      · rfl
    simp only [expand, hnone, hrest]

theorem Lines.plain {es : Entries String} {cs : List Char} (h : Lines es cs) :
    ∀ e ∈ es, PlainKey e.1.toList ∧ PlainValue e.2.toList := by
  have hline {e : String × String} {line : List Char} (h : Line e line) :
      PlainKey e.1.toList ∧ PlainValue e.2.toList := by
    cases h with
    | intro hkey hvalue => exact ⟨hkey, hvalue⟩
  induction h with
  | nil => exact nofun
  | last h => exact List.forall_mem_singleton.mpr (hline h)
  | cons h _ _ ih => exact List.forall_mem_cons.mpr ⟨hline h, ih⟩

/-- The variables of a file, each with a value. -/
def assigned (file : Entries String) : Entries (Option String) := file.map fun e => (e.1, some e.2)

/-- Values without references are what the lines say, whatever the environment is. -/
theorem values_plain {es : Entries String} (h : ∀ e ∈ es, PlainValue e.2.toList) (override : Bool)
    (env : Environment) :
    values override env (es.map fun e => ⟨e.1, some e.2⟩) = assigned (Entries.ofList es) := by
  induction es using List.reverseRecOn with
  | nil => rfl
  | append_singleton es e ih =>
    obtain ⟨hes, he⟩ := List.forall_mem_append.mp h
    have hvalue := (he e (List.mem_singleton.mpr rfl)).no_reference
    have hstep := ih hes
    unfold values assigned at hstep
    unfold values assigned
    rw [List.map_append, List.map_singleton, List.foldl_concat, hstep, Entries.ofList_snoc,
      Entries.map_put_value]
    simp only [Option.map_some, expand_plain hvalue, String.ofList_toList]

end SearchSource.EnvFile
