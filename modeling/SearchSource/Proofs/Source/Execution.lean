import SearchSource.Source
import SearchSource.Proofs.Metrics.Ledger
import SearchSource.Proofs.Result.Inversion

/-! A search in two halves: up to the call of the transport, and from its answer on. Main
statements: `execute_of_ok` joins the halves; the second one comes to the `conclusion`, which is
read off the document, the answer and the transport's judgement alone, and books what `settled`
says. -/
namespace SearchSource
namespace Source

def ledger (s : Source) : Ledger := s.registry.ledger

/-- The label under which the data source counts, if it does. -/
def label? (s : Source) : Option String := s.metrics.bind (·.label? s.registry)

/-- An entry as the data source writes it: under its label, or not at all. -/
def book (s : Source) (entry : String → Ledger) : Ledger := (s.label?.map entry).getD .empty

/-- Data sources that judge failures alike and count under the same label. -/
structure Alike (s s' : Source) : Prop where
  judge : ∀ f, s'.transport.isBadRequest f = s.transport.isBadRequest f
  metrics : s'.metrics = s.metrics
  generation : s'.registry.generation = s.registry.generation

namespace Alike

variable {s s' s'' : Source}

theorem refl (s : Source) : s.Alike s := ⟨fun _ => rfl, rfl, rfl⟩

theorem trans (h : s.Alike s') (h' : s'.Alike s'') : s.Alike s'' :=
  ⟨fun f => (h'.judge f).trans (h.judge f), h'.metrics.trans h.metrics,
    h'.generation.trans h.generation⟩

theorem label? (h : s.Alike s') : s'.label? = s.label? := by
  simp only [Source.label?, SearchMetrics.label?, h.metrics, h.generation]

theorem book (h : s.Alike s') (entry : String → Ledger) : s'.book entry = s.book entry := by
  simp only [Source.book, h.label?]

end Alike

/-! ### The small steps -/

theorem transport_recordWith (change : SearchMetrics → Registry → Registry) (s : Source) :
    (s.recordWith change).transport = s.transport := by
  unfold recordWith
  split <;> rfl

/-- What becomes of a data source that books an entry and does not touch its transport. -/
structure Booked (s s' : Source) (entry : String → Ledger) : Prop where
  alike : s.Alike s'
  transport : s'.transport = s.transport
  ledger : s'.ledger = s.ledger ++ s.book entry

theorem booked_nothing (s : Source) : s.Booked s fun _ => .empty := by
  refine ⟨.refl s, rfl, ?_⟩
  unfold book
  cases s.label? <;> exact (Ledger.append_empty _).symm

theorem Booked.emit {s s' : Source} {entry : String → Ledger} (h : s.Booked s' entry)
    (level : Level) (event : String) (fields : Entries Value) :
    s.Booked (s'.emit level event fields) entry :=
  ⟨h.alike.trans ⟨fun _ => rfl, rfl, rfl⟩, h.transport, h.ledger⟩

theorem booked_recordWith {change : SearchMetrics → Registry → Registry} {entry : String → Ledger}
    (hgeneration : ∀ m r, (change m r).generation = r.generation)
    (hledger : ∀ m r, (change m r).ledger = r.ledger ++ ((m.label? r).map entry).getD .empty)
    (s : Source) :
    s.Booked (s.recordWith change) entry := by
  have ht : (s.recordWith change).transport = s.transport := transport_recordWith change s
  obtain ⟨transport, registry, metrics, log⟩ := s
  cases metrics with
  | none => exact ⟨.refl _, rfl, (Ledger.append_empty _).symm⟩
  | some m => exact ⟨⟨fun f => by rw [ht], rfl, hgeneration m registry⟩, ht, hledger m registry⟩

theorem isBadRequest_search (d : SearchDocument) (t : Transport) (f : Failure) :
    (t.search d).2.isBadRequest f = t.isBadRequest f := by
  cases t <;> rfl

theorem alike_send (d : SearchDocument) (s : Source) : s.Alike (s.send d).2 :=
  ⟨isBadRequest_search d s.transport, rfl, rfl⟩

/-! ### The first half -/

/-- A data source that has noted a document and is about to send it. -/
def noted (d : SearchDocument) (s : Source) : Source :=
  (s.recordWith (·.querySent d.index)).emit .debug "search.compiled"
    [("index", .text d.index), ("search", .object d.entries)]

/-- A data source that has sent a document. -/
def sent (d : SearchDocument) (s : Source) : Source := ((s.noted d).send d).2

def sentEntry (d : SearchDocument) (label : String) : Ledger :=
  ⟨[SearchMetrics.queryCall label d.index], [], []⟩

theorem prepare_of_error {r : SearchRequest} {e : CompileError}
    (h : Assembly.assemble r = .error e) (s : Source) :
    s.prepare r = .error e.toFailure := by
  unfold prepare
  rw [h]
  rfl

theorem prepare_of_ok {r : SearchRequest} {d : SearchDocument} (h : Assembly.assemble r = .ok d)
    (s : Source) :
    s.prepare r = .ok (d, s.noted d) := by
  unfold prepare
  rw [h]
  rfl

theorem transport_noted (d : SearchDocument) (s : Source) : (s.noted d).transport = s.transport :=
  transport_recordWith _ s

theorem send_noted (d : SearchDocument) (s : Source) :
    (s.noted d).send d = ((s.transport.search d).1, s.sent d) := by
  unfold sent send
  rw [transport_noted]

theorem transport_sent (d : SearchDocument) (s : Source) :
    (s.sent d).transport = (s.transport.search d).2 := by
  have h := congrArg (fun p => p.2.transport) (send_noted d s)
  unfold send at h
  rw [transport_noted] at h
  exact h.symm

theorem booked_noted (d : SearchDocument) (s : Source) : s.Booked (s.noted d) (sentEntry d) := by
  have h : s.Booked (s.recordWith (·.querySent d.index)) (sentEntry d) :=
    booked_recordWith (fun m r => SearchMetrics.generation_querySent m d.index r)
      (fun m r => SearchMetrics.ledger_querySent m d.index r) s
  exact h.emit _ _ _

theorem alike_sent (d : SearchDocument) (s : Source) : s.Alike (s.sent d) :=
  (booked_noted d s).alike.trans (alike_send d _)

theorem ledger_sent (d : SearchDocument) (s : Source) :
    (s.sent d).ledger = s.ledger ++ s.book (sentEntry d) := (booked_noted d s).ledger

/-! ### The second half -/

/-- What follows once the transport has answered or failed. -/
def settle (r : SearchRequest) (d : SearchDocument) :
    Except Failure Value → Source → Execution × Source
  | .error f, s =>
    let (failure, s) := s.settleFailure d f
    (⟨.error failure, r.explain⟩, s)
  | .ok response, s =>
    match s.settleAnswer r d response with
    | (.error f, s) => (⟨.error (.own f), r.explain⟩, s)
    | (.ok (result, explain), s) => (⟨.ok result, explain⟩, s)

theorem execute_of_error {r : SearchRequest} {e : CompileError}
    (h : Assembly.assemble r = .error e) (s : Source) :
    s.execute r = (⟨.error (.own e.toFailure), r.explain⟩, s) := by
  unfold execute
  rw [prepare_of_error h]

/-- The two halves, one right after the other, are the whole. -/
theorem execute_of_ok {r : SearchRequest} {d : SearchDocument} (h : Assembly.assemble r = .ok d)
    (s : Source) :
    s.execute r = (s.sent d).settle r d (s.transport.search d).1 := by
  unfold execute
  rw [prepare_of_ok h]
  simp only [send_noted]
  cases (s.transport.search d).1 <;> rfl

/-- What a failed search is told as, by the judgement of a transport. -/
def verdict (t : Transport) (f : Failure) : SearchFailure :=
  if f.isCatchable then
    match t.isBadRequest f with
    | .error fault => .own (.unfit fault)
    | .ok true => .own (.ofEngine f "elasticsearch")
    | .ok false => .passedOn f
  else .passedOn f

/-- The time that a response tells, as a number. -/
def timeOf? (response : Value) : Option Float :=
  match response.get "took" with
  | .ok .null => none
  | .ok time => time.toFloat.toOption
  | .error _ => none

/-- The time that is noted for a response: it must be possible to read the whole of it. -/
def notedTime? (specs : List AggregateSpec) (response : Value) : Option Float :=
  match ResultSet.ofResponse response specs with
  | .ok _ => timeOf? response
  | .error _ => none

/-- The number for a time that was told, if one was. -/
def timeNumber : Value → Except Fault (Option Float)
  | .null => .ok none
  | time => time.toFloat.map some

/-- What a response is read as, if its time can be noted. -/
def readResult (specs : List AggregateSpec) (response : Value) : Except Failure ResultSet := do
  let result ← ResultSet.ofResponse response specs
  let time ← (response.get "took" : Except Fault Value)
  let _ ← (timeNumber time : Except Fault (Option Float))
  return result

/-- What a response is read as, and what the place for explanations then holds. -/
def reading (r : SearchRequest) (d : SearchDocument) (response : Value) :
    Except Failure (ResultSet × Option (Entries Value)) := do
  let result ← readResult r.aggregates response
  let explain ← (explainIn r d response : Except Fault (Option (Entries Value)))
  return (result, explain)

/-- What a search comes to. -/
def conclusion (t : Transport) (r : SearchRequest) (d : SearchDocument) :
    Except Failure Value → Execution
  | .error f => ⟨.error (verdict t f), r.explain⟩
  | .ok response =>
    match reading r d response with
    | .error f => ⟨.error (.own f), r.explain⟩
    | .ok (result, explain) => ⟨.ok result, explain⟩

theorem Alike.conclusion {s s' : Source} (h : s.Alike s') (r : SearchRequest) (d : SearchDocument)
    (result : Except Failure Value) :
    Source.conclusion s'.transport r d result = Source.conclusion s.transport r d result := by
  cases result with
  | error f => simp only [Source.conclusion, verdict, h.judge]
  | ok response => rfl

/-- What is booked once the transport has answered or failed. -/
def settled (r : SearchRequest) (d : SearchDocument) (result : Except Failure Value)
    (label : String) : Ledger :=
  match result with
  | .error f =>
    ⟨[], if f.isCatchable then [SearchMetrics.failureCall label d.index f.className] else [], []⟩
  | .ok response =>
    ⟨[], [], (notedTime? r.aggregates response).toList.map (SearchMetrics.timeCall label d.index)⟩

/-- A data source that has noted the time of a search, if there is one. -/
def timed (d : SearchDocument) (time : Option Float) (s : Source) : Source :=
  match time with
  | some x => s.recordWith fun m => m.noteTime d.index x
  | none => s

theorem recordTook_eq (d : SearchDocument) (time : Value) (s : Source) :
    s.recordTook d time = (timeNumber time).map fun x => s.timed d x := by
  obtain ⟨transport, registry, metrics, log⟩ := s
  cases metrics with
  | none =>
    -- without instruments, a time that is no number is still a fault
    cases time with
    | null => rfl
    | _ =>
      simp only [recordTook, timeNumber]
      cases Value.toFloat _ <;> rfl
  | some m =>
    cases time with
    | null => rfl
    | _ =>
      simp only [recordTook, timeNumber, SearchMetrics.took]
      cases Value.toFloat _ <;> rfl

theorem timeOf?_eq {response time : Value} (h : response.get "took" = .ok time) :
    timeOf? response = ((timeNumber time).toOption).join := by
  unfold timeOf? timeNumber
  rw [h]
  cases time with
  | null => rfl
  | _ =>
    dsimp only
    cases Value.toFloat _ <;> rfl

theorem booked_timed (d : SearchDocument) (time : Option Float) (s : Source) :
    s.Booked (s.timed d time) fun l =>
      ⟨[], [], time.toList.map (SearchMetrics.timeCall l d.index)⟩ := by
  cases time with
  | none => exact booked_nothing s
  | some x =>
    exact booked_recordWith (fun m r => SearchMetrics.generation_noteTime m d.index x r)
      (fun m r => SearchMetrics.ledger_noteTime m d.index x r) s

theorem settleFailure_fst (d : SearchDocument) (f : Failure) (s : Source) :
    (s.settleFailure d f).1 = verdict s.transport f := by
  unfold settleFailure verdict
  split
  · simp only [transport_recordWith]
    cases s.transport.isBadRequest f with
    | error fault => rfl
    | ok rejected => cases rejected <;> rfl
  · rfl

theorem booked_settleFailure (r : SearchRequest) (d : SearchDocument) (f : Failure) (s : Source) :
    s.Booked (s.settleFailure d f).2 (settled r d (.error f)) := by
  unfold settleFailure settled
  by_cases hf : f.isCatchable
  · simp only [hf, if_true]
    have h : s.Booked (s.recordWith (·.queryFailed d.index f.className))
        fun l => ⟨[], [SearchMetrics.failureCall l d.index f.className], []⟩ :=
      booked_recordWith (fun m r => SearchMetrics.generation_queryFailed m d.index f.className r)
        (fun m r => SearchMetrics.ledger_queryFailed m d.index f.className r) s
    split
    · exact h
    · exact h.emit _ _ _
    · exact h.emit _ _ _
  · simp only [hf, if_false, Bool.false_eq_true]
    exact booked_nothing s

theorem settleAnswer_fst (r : SearchRequest) (d : SearchDocument) (response : Value) (s : Source) :
    (s.settleAnswer r d response).1 = reading r d response := by
  unfold settleAnswer reading readResult
  cases ResultSet.ofResponse response r.aggregates with
  | error f => rfl
  | ok result =>
    cases response.get "took" with
    | error fault => rfl
    | ok time =>
      simp only [recordTook_eq, lift_fault_ok, Except.bind_ok]
      cases timeNumber time with
      | error fault => rfl
      | ok x =>
        simp only [Except.map, lift_fault_ok, Except.bind_ok]
        cases explainIn r d response <;> rfl

theorem booked_settleAnswer (r : SearchRequest) (d : SearchDocument) (response : Value)
    (s : Source) :
    s.Booked (s.settleAnswer r d response).2 (settled r d (.ok response)) := by
  change s.Booked _ fun l => ⟨[], [], (notedTime? r.aggregates response).toList.map
    (SearchMetrics.timeCall l d.index)⟩
  unfold settleAnswer notedTime?
  cases ResultSet.ofResponse response r.aggregates with
  | error f => exact booked_nothing s
  | ok result =>
    cases ht : response.get "took" with
    | error fault =>
      simp only [timeOf?, ht]
      exact booked_nothing s
    | ok time =>
      simp only [recordTook_eq, timeOf?_eq ht]
      cases timeNumber time with
      | error fault => exact booked_nothing s
      | ok x =>
        simp only [Except.map]
        -- the explanation comes after the time, so that its failure takes nothing back
        have h := (booked_timed d x s).emit .debug "search.completed"
          [("index", .text d.index), ("took", time), ("rows", .int result.size),
            ("total_count", result.totalCount)]
        cases explainIn r d response <;> exact h

theorem settle_answer (r : SearchRequest) (d : SearchDocument) (response : Value) (s : Source) :
    s.settle r d (.ok response) =
      (match (s.settleAnswer r d response).1 with
        | .error f => ⟨.error (.own f), r.explain⟩
        | .ok (result, explain) => ⟨.ok result, explain⟩,
        (s.settleAnswer r d response).2) := by
  simp only [settle]
  cases s.settleAnswer r d response with
  | mk outcome s' => cases outcome <;> rfl

theorem settle_fst (r : SearchRequest) (d : SearchDocument) (result : Except Failure Value)
    (s : Source) :
    (s.settle r d result).1 = conclusion s.transport r d result := by
  cases result with
  | error f => simp only [settle, conclusion, settleFailure_fst]
  | ok response =>
    rw [settle_answer, settleAnswer_fst]
    rfl

theorem booked_settle (r : SearchRequest) (d : SearchDocument) (result : Except Failure Value)
    (s : Source) :
    s.Booked (s.settle r d result).2 (settled r d result) := by
  cases result with
  | error f => exact booked_settleFailure r d f s
  | ok response =>
    rw [settle_answer]
    exact booked_settleAnswer r d response s

/-! ### The whole -/

section Compiled

variable {r : SearchRequest} {d : SearchDocument} (h : Assembly.assemble r = .ok d) (s : Source)

include h

theorem execute_fst : (s.execute r).1 = conclusion s.transport r d (s.transport.search d).1 := by
  rw [execute_of_ok h, settle_fst, (alike_sent d s).conclusion]

theorem alike_execute : s.Alike (s.execute r).2 := by
  rw [execute_of_ok h]
  exact (alike_sent d s).trans (booked_settle r d _ _).alike

/-- The transport is called once, whatever comes of it. -/
theorem transport_execute : (s.execute r).2.transport = (s.transport.search d).2 := by
  rw [execute_of_ok h, (booked_settle r d _ _).transport, transport_sent]

theorem ledger_execute :
    (s.execute r).2.ledger =
      s.ledger ++ (s.book (sentEntry d) ++ s.book (settled r d (s.transport.search d).1)) := by
  rw [execute_of_ok h, (booked_settle r d _ _).ledger, ledger_sent, (alike_sent d s).book,
    Ledger.append_assoc]

end Compiled

end Source
end SearchSource
