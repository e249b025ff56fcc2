import SearchSource.Proofs.Source.Explanation
import Mathlib.Algebra.BigOperators.Group.Finset.Basic
import Mathlib.Algebra.Order.Group.Multiset
import Mathlib.Data.Fintype.Basic

/-! Searches that run at the same time on one data source. Each has two parts, up to the call of the
transport and from its answer on, and the parts of different searches may come in any order. Main
statement: `interleaved_as_alone`. -/
namespace SearchSource

/-- A transport whose next search comes to a given outcome. -/
def Transport.answering (o : Outcome) : Transport → Transport
  | scripted script documents closed =>
    scripted { script with queue := o :: script.queue } documents closed
  | client script calls closed => client { script with queue := o :: script.queue } calls closed

namespace Ledger

/-- The calls of the instruments without their order. -/
def tally (l : Ledger) : Multiset Measurement × Multiset Measurement × Multiset Measurement :=
  (l.queries, l.failures, l.times)

@[simp] theorem tally_empty : empty.tally = 0 := rfl

@[simp] theorem tally_append (a b : Ledger) : (a ++ b).tally = a.tally + b.tally := by
  simp only [tally, queries_append, failures_append, times_append, ← Multiset.coe_add]
  rfl

theorem perm_of_tally_eq {a b : Ledger} (h : a.tally = b.tally) :
    a.queries.Perm b.queries ∧ a.failures.Perm b.failures ∧ a.times.Perm b.times := by
  simp only [tally, Prod.mk.injEq, Multiset.coe_eq_coe] at h
  exact h

end Ledger

namespace Source

def answering (o : Outcome) (s : Source) : Source := { s with transport := s.transport.answering o }

theorem search_answering (o : Outcome) (d : SearchDocument) (s : Source) :
    ((s.answering o).transport.search d).1 = o.result := by
  unfold answering
  cases s.transport <;> rfl

theorem alike_answering (o : Outcome) (s : Source) : s.Alike (s.answering o) := by
  refine ⟨fun f => ?_, rfl, rfl⟩
  unfold answering
  cases s.transport <;> rfl

/-! ### One search -/

/-- A search among others: its request, what its call of the transport comes to, and where it is
explained. -/
structure Call where
  request : SearchRequest
  outcome : Outcome
  sink : Option Nat

namespace Call

variable (c : Call) (s : Source) (sinks : Nat → Entries Value)

/-- The request with what its place for explanations holds. -/
def on : SearchRequest := { c.request with explain := c.sink.map sinks }

/-- The search when nothing else runs. -/
def alone : Execution × Source := (s.answering c.outcome).execute (c.on sinks)

/-- What the instruments are called with on behalf of a search. -/
def entries : Ledger :=
  match Assembly.assemble c.request with
  | .error _ => .empty
  | .ok d => s.book (sentEntry d) ++ s.book (settled c.request d c.outcome.result)

theorem alone_of_error {e : CompileError} (h : Assembly.assemble c.request = .error e) :
    c.alone s sinks = (⟨.error (.own e.toFailure), c.sink.map sinks⟩, s.answering c.outcome) := by
  have hon : Assembly.assemble (c.on sinks) = .error e := h
  exact execute_of_error hon _

theorem alone_fst_of_ok {d : SearchDocument} (h : Assembly.assemble c.request = .ok d) :
    (c.alone s sinks).1 = conclusion s.transport (c.on sinks) d c.outcome.result := by
  have hon : Assembly.assemble (c.on sinks) = .ok d := h
  unfold alone
  rw [execute_fst hon, (alike_answering _ s).conclusion]
  exact congrArg _ (search_answering c.outcome d s)

end Call

/-! ### Many searches -/

inductive Phase
  | ready
  /-- The transport was called, and its result is on the way. -/
  | waiting (d : SearchDocument) (result : Except Failure Value)
  | done (outcome : Except SearchFailure ResultSet)

/-- How many parts of a search are left at most. -/
def Phase.left : Phase → Nat
  | ready => 2
  | waiting _ _ => 1
  | done _ => 0

theorem Phase.exists_done {p : Phase} (h : p.left = 0) : ∃ outcome, p = .done outcome := by
  cases p with
  | done outcome => exact ⟨outcome, rfl⟩
  | _ => simp [left] at h

/-- A data source, the places where searches are explained, and how far each of them has come. -/
structure World (ι : Type) where
  source : Source
  sinks : Nat → Entries Value
  phase : ι → Phase

def writeTo (sink : Option Nat) (explain : Option (Entries Value)) (sinks : Nat → Entries Value) :
    Nat → Entries Value :=
  match sink, explain with
  | some a, some es => Function.update sinks a es
  | _, _ => sinks

theorem writeTo_of_ne {sink : Option Nat} {a : Nat} (h : sink ≠ some a)
    (explain : Option (Entries Value)) (sinks : Nat → Entries Value) :
    writeTo sink explain sinks a = sinks a := by
  cases sink with
  | none => rfl
  | some b =>
    cases explain with
    | none => rfl
    | some es => exact Function.update_of_ne (fun hab => h (congrArg some hab.symm)) es sinks

theorem map_writeTo {sink : Option Nat} {explain : Option (Entries Value)}
    (h : explain.isSome = sink.isSome) (sinks : Nat → Entries Value) :
    sink.map (writeTo sink explain sinks) = explain := by
  cases sink with
  | none => cases explain <;> simp at h ⊢
  | some a =>
    cases explain with
    | none => simp at h
    | some es =>
      have hself : Function.update sinks a es a = es := Function.update_self a es sinks
      exact congrArg some hself

/-- To write what is there changes nothing. -/
theorem writeTo_map (sink : Option Nat) (sinks : Nat → Entries Value) :
    writeTo sink (sink.map sinks) sinks = sinks := by
  cases sink with
  | none => rfl
  | some a => exact Function.update_eq_self a sinks

theorem isSome_explain_conclusion (t : Transport) (r : SearchRequest) (d : SearchDocument)
    (result : Except Failure Value) :
    (conclusion t r d result).explain.isSome = r.explain.isSome := by
  obtain ⟨hfailed, hfound⟩ := explain_conclusion t r d result
  cases h : (conclusion t r d result).outcome with
  | error f => rw [hfailed f h]
  | ok found =>
    obtain ⟨response, -, hexplain⟩ := hfound found h
    rw [hexplain, Option.isSome_map]

/-! ### What every search keeps to -/

section Invariant

variable (c : Call) (s : Source) (sinks : Nat → Entries Value)

/-- A search on its way to what it comes to alone: it waits with its own document and its own
result, and its place for explanations is as it was until the search is done. -/
def Call.OnTrack (now : Nat → Entries Value) : Phase → Prop
  | .ready => c.sink.map now = c.sink.map sinks
  | .waiting d result =>
    (Assembly.assemble c.request = .ok d ∧ result = c.outcome.result) ∧
      c.sink.map now = c.sink.map sinks
  | .done outcome =>
    outcome = (c.alone s sinks).1.outcome ∧ c.sink.map now = (c.alone s sinks).1.explain

/-- What the instruments have been called with so far on behalf of a search. -/
def Call.booked : Phase → Ledger
  | .ready => .empty
  | .waiting d _ => s.book (sentEntry d)
  | .done _ => c.entries s

variable {c s sinks}

/-- A search does not mind what is written elsewhere. -/
theorem Call.OnTrack.congr {now now' : Nat → Entries Value} {p : Phase}
    (h : c.OnTrack s sinks now p) (hnow : c.sink.map now' = c.sink.map now) :
    c.OnTrack s sinks now' p := by
  cases p with
  | ready => exact hnow.trans h
  | waiting d result => exact ⟨h.1, hnow.trans h.2⟩
  | done outcome => exact ⟨h.1, hnow.trans h.2⟩

theorem Call.on_congr {now : Nat → Entries Value} (h : c.sink.map now = c.sink.map sinks) :
    c.on now = c.on sinks := by
  unfold Call.on
  rw [h]

end Invariant

section Searches

variable {ι : Type} (calls : ι → Call)

/-- No two searches are explained in the same place. -/
def Apart (calls : ι → Call) : Prop :=
  ∀ i j a, (calls i).sink = some a → (calls j).sink = some a → i = j

namespace World

def start (s : Source) (sinks : Nat → Entries Value) : World ι := ⟨s, sinks, fun _ => .ready⟩

variable [Fintype ι] (s : Source) (sinks : Nat → Entries Value)

/-- Every search is on track, and the instruments have been called on behalf of the searches and not
otherwise. -/
structure Sound (w : World ι) : Prop where
  alike : s.Alike w.source
  onTrack : ∀ i, (calls i).OnTrack s sinks w.sinks (w.phase i)
  elsewhere : ∀ a, (∀ i, (calls i).sink ≠ some a) → w.sinks a = sinks a
  tally : w.source.ledger.tally = s.ledger.tally + ∑ i, ((calls i).booked s (w.phase i)).tally

theorem sound_start : (start s sinks : World ι).Sound calls s sinks where
  alike := .refl s
  onTrack _ := rfl
  elsewhere _ _ := rfl
  tally := by simp [start, Call.booked]

variable {calls s sinks} {w : World ι}

/-- When all searches are done, the instruments have been called with the entries of each. -/
theorem Sound.tally_of_done (hw : w.Sound calls s sinks) (hdone : ∀ i, (w.phase i).left = 0) :
    w.source.ledger.tally = s.ledger.tally + ∑ i, ((calls i).entries s).tally := by
  rw [hw.tally]
  congr 1
  apply Finset.sum_congr rfl
  intro i _
  obtain ⟨outcome, hp⟩ := Phase.exists_done (hdone i)
  rw [hp]
  rfl

theorem Sound.of_done (hw : w.Sound calls s sinks) {i : ι} (hdone : (w.phase i).left = 0) :
    w.phase i = .done ((calls i).alone s sinks).1.outcome ∧
      (calls i).sink.map w.sinks = ((calls i).alone s sinks).1.explain := by
  have hi := hw.onTrack i
  obtain ⟨outcome, hp⟩ := Phase.exists_done hdone
  rw [hp] at hi ⊢
  exact ⟨congrArg Phase.done hi.1, hi.2⟩

end World

/-- The searches one after the other. -/
def inTurn (order : List ι) (s : Source) (sinks : Nat → Entries Value) :
    Source × (Nat → Entries Value) :=
  order.foldl
    (fun (s, sinks) i =>
      let (e, s) := (calls i).alone s sinks
      (s, writeTo (calls i).sink e.explain sinks))
    (s, sinks)

/-! ### Part by part -/

variable [DecidableEq ι]

namespace World

/-- Let one search go on: its first part if it is ready, its second if it waits. -/
def step (w : World ι) (i : ι) : World ι :=
  match w.phase i with
  | .ready =>
    let s := w.source.answering (calls i).outcome
    match s.prepare ((calls i).on w.sinks) with
    | .error f =>
      { w with source := s, phase := Function.update w.phase i (.done (.error (.own f))) }
    | .ok (d, s) =>
      let (result, s) := s.send d
      { w with source := s, phase := Function.update w.phase i (.waiting d result) }
  | .waiting d result =>
    let (e, s) := w.source.settle ((calls i).on w.sinks) d result
    ⟨s, writeTo (calls i).sink e.explain w.sinks, Function.update w.phase i (.done e.outcome)⟩
  | .done _ => w

def run (schedule : List ι) (w : World ι) : World ι := schedule.foldl (step calls) w

section Steps

variable {calls} {w : World ι} {i : ι}

theorem step_ready_of_error (hp : w.phase i = .ready) {e : CompileError}
    (h : Assembly.assemble (calls i).request = .error e) :
    w.step calls i =
      { w with
        source := w.source.answering (calls i).outcome
        phase := Function.update w.phase i (.done (.error (.own e.toFailure))) } := by
  have hon : Assembly.assemble ((calls i).on w.sinks) = .error e := h
  unfold step
  simp only [hp, prepare_of_error hon]

theorem step_ready_of_ok (hp : w.phase i = .ready) {d : SearchDocument}
    (h : Assembly.assemble (calls i).request = .ok d) :
    w.step calls i =
      { w with
        source := (w.source.answering (calls i).outcome).sent d
        phase := Function.update w.phase i (.waiting d (calls i).outcome.result) } := by
  have hon : Assembly.assemble ((calls i).on w.sinks) = .ok d := h
  unfold step
  simp only [hp, prepare_of_ok hon, send_noted, search_answering]

theorem step_waiting {d : SearchDocument} {result : Except Failure Value}
    (hp : w.phase i = .waiting d result) :
    w.step calls i =
      ⟨(w.source.settle ((calls i).on w.sinks) d result).2,
        writeTo (calls i).sink
          (conclusion w.source.transport ((calls i).on w.sinks) d result).explain w.sinks,
        Function.update w.phase i
          (.done (conclusion w.source.transport ((calls i).on w.sinks) d result).outcome)⟩ := by
  unfold step
  rw [hp, ← settle_fst]

theorem step_done {outcome : Except SearchFailure ResultSet} (hp : w.phase i = .done outcome) :
    w.step calls i = w := by
  unfold step
  rw [hp]

/-- The two parts of a search, one right after the other, are the search. -/
theorem step_step (hp : w.phase i = .ready) :
    (w.step calls i).step calls i =
      ⟨((calls i).alone w.source w.sinks).2,
        writeTo (calls i).sink ((calls i).alone w.source w.sinks).1.explain w.sinks,
        Function.update w.phase i (.done ((calls i).alone w.source w.sinks).1.outcome)⟩ := by
  cases hr : Assembly.assemble (calls i).request with
  | error e =>
    have hdone : (w.step calls i).phase i = .done (.error (.own e.toFailure)) := by
      rw [step_ready_of_error hp hr]
      exact Function.update_self _ _ _
    rw [step_done hdone, step_ready_of_error hp hr, Call.alone_of_error _ _ _ hr, writeTo_map]
  | ok d =>
    have hwaiting : (w.step calls i).phase i = .waiting d (calls i).outcome.result := by
      rw [step_ready_of_ok hp hr]
      exact Function.update_self _ _ _
    have hon : Assembly.assemble ((calls i).on w.sinks) = .ok d := hr
    have halone : (calls i).alone w.source w.sinks =
        ((w.source.answering (calls i).outcome).sent d).settle ((calls i).on w.sinks) d
          (calls i).outcome.result := by
      unfold Call.alone
      rw [execute_of_ok hon, search_answering]
    rw [step_waiting hwaiting, step_ready_of_ok hp hr, halone, ← settle_fst]
    simp only [Function.update_idem]

theorem phase_step_of_ne {j : ι} (h : j ≠ i) : (w.step calls i).phase j = w.phase j := by
  cases hp : w.phase i with
  | ready =>
    cases hr : Assembly.assemble (calls i).request with
    | error e =>
      rw [step_ready_of_error hp hr]
      exact Function.update_of_ne h _ _
    | ok d =>
      rw [step_ready_of_ok hp hr]
      exact Function.update_of_ne h _ _
  | waiting d result =>
    rw [step_waiting hp]
    exact Function.update_of_ne h _ _
  | done outcome => rw [step_done hp]

/-- A search that goes on has less left to do. -/
theorem left_step : ((w.step calls i).phase i).left ≤ (w.phase i).left - 1 := by
  cases hp : w.phase i with
  | ready =>
    cases hr : Assembly.assemble (calls i).request with
    | error e =>
      rw [step_ready_of_error hp hr]
      simp [Phase.left]
    | ok d =>
      rw [step_ready_of_ok hp hr]
      simp [Phase.left]
  | waiting d result =>
    rw [step_waiting hp]
    simp [Phase.left]
  | done outcome =>
    rw [step_done hp, hp]
    exact Nat.le_refl _

end Steps

theorem left_run (schedule : List ι) (w : World ι) (i : ι) :
    ((w.run calls schedule).phase i).left ≤ (w.phase i).left - schedule.count i := by
  induction schedule generalizing w with
  | nil => exact Nat.le_refl _
  | cons j schedule ih =>
    -- the measure of the search that goes on falls, that of every other stays
    have hrest : ((w.run calls (j :: schedule)).phase i).left ≤
        ((w.step calls j).phase i).left - schedule.count i := ih (w.step calls j)
    rw [List.count_cons]
    by_cases hj : j = i
    · subst hj
      have hstep : ((w.step calls j).phase j).left ≤ (w.phase j).left - 1 := left_step
      simp only [beq_self_eq_true, if_true]
      omega
    · rw [phase_step_of_ne (Ne.symm hj)] at hrest
      simp only [beq_eq_false_iff_ne.mpr hj, Bool.false_eq_true, if_false]
      exact hrest

/-- Searches one after the other are searches that run at the same time, on the schedule that lets
the two parts of each follow each other. -/
theorem run_inTurn {order : List ι} (hnodup : order.Nodup) {w : World ι}
    (hready : ∀ i ∈ order, w.phase i = .ready) :
    (w.run calls (order.flatMap fun i => [i, i])).source = (inTurn calls order w.source w.sinks).1 ∧
      (w.run calls (order.flatMap fun i => [i, i])).sinks =
        (inTurn calls order w.source w.sinks).2 := by
  induction order generalizing w with
  | nil => exact ⟨rfl, rfl⟩
  | cons i order ih =>
    obtain ⟨hfresh, hnodup⟩ := List.nodup_cons.mp hnodup
    have hi : w.phase i = .ready := hready i List.mem_cons_self
    have hlater : ∀ j ∈ order, ((w.step calls i).step calls i).phase j = .ready := by
      intro j hj
      have hne : j ≠ i := fun h => hfresh (h ▸ hj)
      rw [phase_step_of_ne hne, phase_step_of_ne hne]
      exact hready j (List.mem_cons_of_mem i hj)
    have hrun : w.run calls ((i :: order).flatMap fun i => [i, i]) =
        ((w.step calls i).step calls i).run calls (order.flatMap fun i => [i, i]) := rfl
    have hrest := ih hnodup hlater
    rw [hrun]
    rw [step_step hi] at hrest ⊢
    exact hrest

theorem two_le_count_flatMap {order : List ι} {i : ι} (h : i ∈ order) :
    2 ≤ (order.flatMap fun j => [j, j]).count i := by
  obtain ⟨before, after, rfl⟩ := List.append_of_mem h
  simp only [List.flatMap_append, List.flatMap_cons, List.count_append, List.count_cons_self,
    List.count_nil]
  omega

end World

/-- A sum grows by what one of its parts grows by. -/
theorem sum_update [Fintype ι] {M P : Type} [AddCommMonoid M] {g : ι → P → M} {φ : ι → P} {i : ι}
    {p : P} {e : M} (h : g i p = g i (φ i) + e) :
    ∑ j, g j (Function.update φ i p j) = ∑ j, g j (φ j) + e := by
  have hrest : ∑ j ∈ Finset.univ.erase i, g j (Function.update φ i p j) =
      ∑ j ∈ Finset.univ.erase i, g j (φ j) := by
    apply Finset.sum_congr rfl
    intro j hj
    rw [Function.update_of_ne (Finset.ne_of_mem_erase hj)]
  calc ∑ j, g j (Function.update φ i p j)
      = g i p + ∑ j ∈ Finset.univ.erase i, g j (φ j) := by
        rw [← Finset.add_sum_erase _ _ (Finset.mem_univ i), hrest, Function.update_self]
    _ = g i (φ i) + ∑ j ∈ Finset.univ.erase i, g j (φ j) + e := by rw [h, add_right_comm]
    _ = ∑ j, g j (φ j) + e := by
      rw [Finset.add_sum_erase _ (fun j => g j (φ j)) (Finset.mem_univ i)]

namespace World

variable [Fintype ι] {calls} {s : Source} {sinks : Nat → Entries Value} {w : World ι}

/-- A search that goes on and stays on track itself takes no other off it: it writes to its own
place only, and what it books is added to what was booked before. -/
theorem Sound.advance (hw : w.Sound calls s sinks) (hapart : Apart calls) {i : ι}
    {source : Source} {now : Nat → Entries Value} {p : Phase} {e : Ledger}
    (halike : w.source.Alike source) (hnow : ∀ a, (calls i).sink ≠ some a → now a = w.sinks a)
    (hon : (calls i).OnTrack s sinks now p) (hledger : source.ledger = w.source.ledger ++ e)
    (hbooked : (calls i).booked s p = (calls i).booked s (w.phase i) ++ e) :
    Sound calls s sinks ⟨source, now, Function.update w.phase i p⟩ where
  alike := hw.alike.trans halike
  onTrack := by
    intro j
    by_cases hj : j = i
    · subst hj
      simpa using hon
    · simp only [Function.update_of_ne hj]
      -- the places differ, so that the place of `j` holds what it held
      apply (hw.onTrack j).congr
      cases hsink : (calls j).sink with
      | none => rfl
      | some a =>
        have hne : (calls i).sink ≠ some a := fun hi => hj (hapart j i a hsink hi)
        exact congrArg some (hnow a hne)
  elsewhere a ha := (hnow a (ha i)).trans (hw.elsewhere a ha)
  tally := by
    have hone : ((calls i).booked s p).tally =
        ((calls i).booked s (w.phase i)).tally + e.tally := by
      rw [hbooked, Ledger.tally_append]
    have hsum : ∑ j, ((calls j).booked s (Function.update w.phase i p j)).tally =
        ∑ j, ((calls j).booked s (w.phase j)).tally + e.tally :=
      sum_update (g := fun j p => ((calls j).booked s p).tally) hone
    rw [hledger, Ledger.tally_append, hw.tally, hsum, add_assoc]

theorem Sound.step (hw : w.Sound calls s sinks) (hapart : Apart calls) (i : ι) :
    (w.step calls i).Sound calls s sinks := by
  have hi := hw.onTrack i
  cases hp : w.phase i with
  | ready =>
    rw [hp] at hi
    cases hr : Assembly.assemble (calls i).request with
    | error e =>
      rw [step_ready_of_error hp hr]
      apply hw.advance hapart (alike_answering _ _) (fun _ _ => rfl) (e := .empty)
      · rw [Call.OnTrack, Call.alone_of_error _ s sinks hr]
        exact ⟨rfl, hi⟩
      · rw [Ledger.append_empty]
        rfl
      · rw [hp]
        simp only [Call.booked, Call.entries, hr, Ledger.append_empty]
    | ok d =>
      rw [step_ready_of_ok hp hr]
      have hsent := (alike_answering (calls i).outcome w.source).trans (alike_sent d _)
      apply hw.advance hapart hsent (fun _ _ => rfl) (e := s.book (sentEntry d))
      · exact ⟨⟨hr, rfl⟩, hi⟩
      · rw [ledger_sent, (alike_answering _ _).book, hw.alike.book]
        rfl
      · rw [hp]
        simp only [Call.booked, Ledger.empty_append]
  | waiting d result =>
    rw [hp] at hi
    obtain ⟨⟨hr, rfl⟩, hsink⟩ := hi
    rw [step_waiting hp]
    -- other searches went on meanwhile; the judgement, the label and the place are those of the
    -- start
    have hsettle := booked_settle ((calls i).on w.sinks) d (calls i).outcome.result w.source
    have hconclusion :
        conclusion w.source.transport ((calls i).on w.sinks) d (calls i).outcome.result =
        ((calls i).alone s sinks).1 := by
      rw [Call.alone_fst_of_ok _ s sinks hr, hw.alike.conclusion, Call.on_congr hsink]
    apply hw.advance hapart (e :=
      s.book (settled (calls i).request d (calls i).outcome.result)) hsettle.alike
      (fun a ha => writeTo_of_ne ha _ _)
    · refine ⟨congrArg _ hconclusion, ?_⟩
      rw [← hconclusion]
      apply map_writeTo
      rw [isSome_explain_conclusion]
      exact Option.isSome_map
    · rw [← hw.alike.book]
      exact hsettle.ledger
    · rw [hp]
      simp only [Call.booked, Call.entries, hr]
  | done outcome =>
    rw [step_done hp]
    exact hw

theorem Sound.run (hw : w.Sound calls s sinks) (hapart : Apart calls) (schedule : List ι) :
    (w.run calls schedule).Sound calls s sinks := by
  induction schedule generalizing w with
  | nil => exact hw
  | cons i schedule ih => exact ih (hw.step hapart i)

/-- When each search has gone on twice, all are done. -/
theorem sound_run_start (hapart : Apart calls) (s : Source) (sinks : Nat → Entries Value)
    {schedule : List ι} (hschedule : ∀ i, 2 ≤ schedule.count i) :
    let w := (start s sinks).run calls schedule
    w.Sound calls s sinks ∧ ∀ i, (w.phase i).left = 0 := by
  refine ⟨(sound_start calls s sinks).run hapart schedule, ?_⟩
  intro i
  have hstart : ((start s sinks : World ι).phase i).left = 2 := rfl
  have hleft := left_run calls schedule (start s sinks) i
  have htwice : 2 ≤ schedule.count i := hschedule i
  omega

end World

/-- Searches that run at the same time and are explained in places of their own come to what each
comes to alone, and write what each writes alone. The calls of the instruments are those of the
searches one after the other, in any order. -/
theorem interleaved_as_alone [Fintype ι] (hapart : Apart calls) (s : Source)
    (sinks : Nat → Entries Value) (schedule : List ι) (hschedule : ∀ i, 2 ≤ schedule.count i) :
    let w := (World.start s sinks).run calls schedule
    (∀ i, w.phase i = .done ((calls i).alone s sinks).1.outcome ∧
      (calls i).sink.map w.sinks = ((calls i).alone s sinks).1.explain) ∧
      (∀ a, (∀ i, (calls i).sink ≠ some a) → w.sinks a = sinks a) ∧
      ∀ order, order.Nodup → (∀ i, i ∈ order) →
        let serial := (inTurn calls order s sinks).1
        (w.source.registry.counted SearchMetrics.queries).Perm
          (serial.registry.counted SearchMetrics.queries) ∧
          (w.source.registry.counted SearchMetrics.failures).Perm
            (serial.registry.counted SearchMetrics.failures) ∧
          (w.source.registry.recorded SearchMetrics.tookTime).Perm
            (serial.registry.recorded SearchMetrics.tookTime) := by
  intro w
  obtain ⟨hw, hdone⟩ := World.sound_run_start hapart s sinks hschedule
  refine ⟨fun i => hw.of_done (hdone i), hw.elsewhere, ?_⟩
  intro order hnodup hall serial
  obtain ⟨hw', hdone'⟩ := World.sound_run_start hapart s sinks fun i =>
    World.two_le_count_flatMap (hall i)
  have hserial :
      ((World.start s sinks).run calls (order.flatMap fun i => [i, i])).source = serial :=
    (World.run_inTurn calls hnodup fun _ _ => rfl).1
  have htally : w.source.ledger.tally = serial.ledger.tally := by
    rw [← hserial, hw.tally_of_done hdone, hw'.tally_of_done hdone']
  exact Ledger.perm_of_tally_eq htally

/-- A search that is answered and a search that is turned down, each explained in its own place. -/
def answeredAndRefused : Fin 2 → Call
  | 0 => ⟨rawSearch, .answer (.object [("took", .int 7)]), some 0⟩
  | 1 => ⟨rawSearch, .failure (.raised ⟨"ConnectionError", [], "", false⟩ none), some 1⟩

theorem apart_answeredAndRefused : Apart answeredAndRefused := by
  have hsink : ∀ i, (answeredAndRefused i).sink = some i.val := by decide
  intro i j a hi hj
  rw [hsink, Option.some.injEq] at hi hj
  exact Fin.ext (hi.trans hj.symm)

theorem interleaved_as_alone_answeredAndRefused :
    let w := (World.start idle fun _ => [("trace", .int 1)]).run answeredAndRefused [0, 1, 1, 0]
    let serial := (inTurn answeredAndRefused [1, 0] idle fun _ => [("trace", .int 1)]).1
    w.phase 0 = .done (.ok ⟨[], .null, []⟩) ∧ (w.sinks 0).keys = ["trace", "elasticsearch"] ∧
      w.phase 1 = .done (.error (.passedOn (.raised ⟨"ConnectionError", [], "", false⟩ none))) ∧
      w.sinks 1 = [("trace", .int 1)] ∧
      (w.source.registry.counted SearchMetrics.queries).Perm
        (serial.registry.counted SearchMetrics.queries) := by
  intro w serial
  obtain ⟨halone, -, hserial⟩ :=
    interleaved_as_alone answeredAndRefused apart_answeredAndRefused idle
    (fun _ => [("trace", .int 1)]) [0, 1, 1, 0] (by decide)
  obtain ⟨h0, hsink0⟩ := halone 0
  obtain ⟨h1, hsink1⟩ := halone 1
  exact ⟨h0, congrArg (fun o => (o.getD []).keys) hsink0, h1, Option.some.inj hsink1,
    (hserial [1, 0] (by decide) (by decide)).1⟩

end Searches

end Source
end SearchSource
