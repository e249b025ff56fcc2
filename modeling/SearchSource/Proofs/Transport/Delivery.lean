import SearchSource.Proofs.Source.Failing

/-! A scripted transport over a whole run: what is queued is given out once, in the order in which
it was queued, and a search that finds nothing queued is answered otherwise. Main statement:
`run_gives_out_in_order`. -/
namespace SearchSource
namespace Transport

/-- What can happen to a scripted transport. -/
inductive Step
  | search (d : SearchDocument)
  | respondWith (response : Value)
  | failWith (f : Failure)

def Step.queued? : Step → Option Outcome
  | search _ => none
  | respondWith response => some (.answer response)
  | failWith f => some (.failure f)

def Step.submitted? : Step → Option SearchDocument
  | search d => some d
  | _ => none

/-- A search: its document, what waited before and after it, and what the one who searched got. -/
structure Exchange where
  document : SearchDocument
  before : List Outcome
  after : List Outcome
  result : Except Failure Value

/-- The outcome that a search consumed, if there is less in the queue than before. -/
def Exchange.consumed? (e : Exchange) : Option Outcome :=
  if e.after.length < e.before.length then e.before.head? else none

def exchange (d : SearchDocument) (t : Transport) : Exchange where
  document := d
  before := t.script.queue
  after := (t.search d).2.script.queue
  result := (t.search d).1

/-- All searches of a run, and the transport after it. -/
def run : List Step → Transport → List Exchange × Transport
  | [], t => ([], t)
  | .search d :: steps, t =>
    let (exchanges, t') := run steps (t.search d).2
    (t.exchange d :: exchanges, t')
  | .respondWith response :: steps, t => run steps (t.respond (.answer response))
  | .failWith f :: steps, t => run steps (t.respond (.failure f))

/-- A failure as it reaches the one who searched: the end of a sequence of items breaks the search
off. -/
def ArrivesAs (f g : Failure) : Prop := g = f ∨ f.className = "StopIteration" ∧ g = .brokenOff

/-- A search consumed the outcome that waited longest and came to it; if nothing waited, and only
then, it consumed none and came to the fallback. -/
structure Exchange.Orderly (fallback : Value) (e : Exchange) : Prop where
  split : e.before = e.consumed?.toList ++ e.after
  empty_iff : e.consumed? = none ↔ e.before = []
  empty : e.consumed? = none → e.result = .ok fallback
  answer : ∀ response, e.consumed? = some (.answer response) → e.result = .ok response
  failure : ∀ f, e.consumed? = some (.failure f) → ∃ g, e.result = .error g ∧ ArrivesAs f g

theorem result_failure (f : Failure) :
    ∃ g, (Outcome.failure f).result = .error g ∧ ArrivesAs f g := by
  cases f with
  | raised e status =>
    by_cases hname : e.name = Outcome.endOfItems
    · refine ⟨.brokenOff, ?_, .inr ⟨hname, rfl⟩⟩
      rw [Outcome.result, if_pos hname]
    · refine ⟨.raised e status, ?_, .inl rfl⟩
      rw [Outcome.result, if_neg hname]
  | _ => exact ⟨_, rfl, .inl rfl⟩

theorem consumed?_exchange (d : SearchDocument) (t : Transport) :
    (t.exchange d).consumed? = t.script.queue.head? := by
  have hafter : (t.exchange d).after = t.script.queue.tail := queue_search d t
  have hbefore : (t.exchange d).before = t.script.queue := rfl
  rw [Exchange.consumed?, hafter, hbefore]
  cases t.script.queue <;> simp

/-- Of the outcomes that wait a search comes to the first. -/
theorem result_exchange (d : SearchDocument) (t : Transport) :
    (t.exchange d).result = ((t.script.queue.head?).getD (.answer t.script.otherwise)).result := by
  obtain ⟨⟨queue, otherwise⟩, _, _⟩ | ⟨⟨queue, otherwise⟩, _, _⟩ := t <;> cases queue <;> rfl

theorem orderly_exchange (d : SearchDocument) (t : Transport) :
    (t.exchange d).Orderly t.script.otherwise := by
  have hconsumed := consumed?_exchange d t
  have hresult := result_exchange d t
  have hafter : (t.exchange d).after = t.script.queue.tail := queue_search d t
  have hbefore : (t.exchange d).before = t.script.queue := rfl
  constructor
  case split => rw [hconsumed, hafter, hbefore]; cases t.script.queue <;> rfl
  case empty_iff => rw [hconsumed, hbefore, List.head?_eq_none_iff]
  case empty =>
    intro h
    rw [hresult, ← hconsumed, h]
    rfl
  case answer =>
    intro response h
    rw [hresult, ← hconsumed, h]
    rfl
  case failure =>
    intro f h
    rw [hresult, ← hconsumed, h]
    exact result_failure f

/-- What a scripted transport has been through: what it was given, and the searches that it
answered. -/
structure History (fallback : Value) (given : List Outcome) (exchanges : List Exchange)
    (t : Transport) : Prop where
  fallback_eq : t.script.otherwise = fallback
  documents : t.documents? = some (exchanges.map (·.document))
  conserved : exchanges.filterMap (·.consumed?) ++ t.script.queue = given
  orderly : ∀ e ∈ exchanges, e.Orderly fallback

namespace History

variable {fallback : Value} {given : List Outcome} {exchanges : List Exchange} {t : Transport}

theorem respond (h : History fallback given exchanges t) (o : Outcome) :
    History fallback (given ++ [o]) exchanges (t.respond o) := by
  have hscript : (t.respond o).script = t.script.add o := by cases t <;> rfl
  have hdocuments : (t.respond o).documents? = t.documents? := by cases t <;> rfl
  refine ⟨?_, hdocuments.trans h.documents, ?_, h.orderly⟩
  · rw [hscript]
    exact h.fallback_eq
  · rw [hscript, ← h.conserved, List.append_assoc]
    rfl

theorem search (h : History fallback given exchanges t) (d : SearchDocument) :
    History fallback given (exchanges ++ [t.exchange d]) (t.search d).2 := by
  have horderly : (t.exchange d).Orderly fallback := h.fallback_eq ▸ orderly_exchange d t
  have hfallback : (t.search d).2.script.otherwise = t.script.otherwise := by
    obtain ⟨⟨queue, _⟩, _, _⟩ | ⟨⟨queue, _⟩, _, _⟩ := t <;> cases queue <;> rfl
  have hdocuments : (t.search d).2.documents? = t.documents?.map (· ++ [d]) := by cases t <;> rfl
  refine ⟨hfallback.trans h.fallback_eq, ?_, ?_, ?_⟩
  · rw [hdocuments, h.documents, List.map_append]
    rfl
  · -- what the search consumed was the head of what waited
    have hsplit : t.script.queue = (t.exchange d).consumed?.toList ++ (t.search d).2.script.queue :=
      horderly.split
    have hsingle : [t.exchange d].filterMap (·.consumed?) = (t.exchange d).consumed?.toList := by
      cases hc : (t.exchange d).consumed? <;> simp [hc]
    rw [List.filterMap_append, hsingle, List.append_assoc, ← hsplit, h.conserved]
  · exact List.forall_mem_append.mpr ⟨h.orderly, List.forall_mem_singleton.mpr horderly⟩

/-- Over a run, what was given grows by what is queued, and the searches by those of the run. -/
theorem run {steps : List Step} (h : History fallback given exchanges t) :
    History fallback (given ++ steps.filterMap (·.queued?)) (exchanges ++ (Transport.run steps t).1)
      (Transport.run steps t).2 := by
  induction steps generalizing given exchanges t with
  | nil =>
    rw [show (Transport.run [] t).1 = [] from rfl, List.filterMap_nil, List.append_nil,
      List.append_nil]
    exact h
  | cons step steps ih =>
    cases step with
    | search d =>
      have hrest := ih (h.search d)
      rw [List.append_assoc] at hrest
      exact hrest
    | respondWith response =>
      have hrest := ih (h.respond (.answer response))
      rw [List.append_assoc] at hrest
      exact hrest
    | failWith f =>
      have hrest := ih (h.respond (.failure f))
      rw [List.append_assoc] at hrest
      exact hrest

end History

theorem documents_run (steps : List Step) (t : Transport) :
    (t.run steps).1.map (·.document) = steps.filterMap (·.submitted?) := by
  induction steps generalizing t with
  | nil => rfl
  | cons step steps ih =>
    cases step with
    | search d => exact congrArg (d :: ·) (ih _)
    | respondWith response => exact ih _
    | failWith f => exact ih _

/-- Over any run of a scripted transport, the outcomes that searches consumed, followed by those
that still wait, are the outcomes it was made with, followed by those queued since. A search
consumes the one that has waited longest and comes to it, unless nothing waits, and then it comes to
an answer without hits. The documents of all searches are kept in their order. -/
theorem run_gives_out_in_order (outcomes : List Outcome) (steps : List Step) :
    let exchanges := (run steps (.scripted ⟨outcomes, Script.noHits⟩ [] false)).1
    let after := (run steps (.scripted ⟨outcomes, Script.noHits⟩ [] false)).2
    exchanges.filterMap (·.consumed?) ++ after.script.queue =
      outcomes ++ steps.filterMap (·.queued?) ∧
      (∀ e ∈ exchanges, e.Orderly Script.noHits) ∧
      exchanges.map (·.document) = steps.filterMap (·.submitted?) ∧
      after.documents? = some (steps.filterMap (·.submitted?)) := by
  intro exchanges after
  have hstart :
      History Script.noHits outcomes [] (.scripted ⟨outcomes, Script.noHits⟩ [] false) := by
    constructor
    case orderly => exact List.forall_mem_nil _
    all_goals rfl
  have hend : History Script.noHits (outcomes ++ steps.filterMap (·.queued?)) exchanges after :=
    hstart.run
  have hdocuments : exchanges.map (·.document) = steps.filterMap (·.submitted?) :=
    documents_run steps _
  exact ⟨hend.conserved, hend.orderly, hdocuments, hdocuments ▸ hend.documents⟩

def harbours : SearchDocument := ⟨"harbours", [], none, none⟩

/-- An answer that is queued beside one given at the start, with a failure behind it that ends the
search it reaches. -/
def fourSearches : List Step :=
  [.search harbours, .failWith (.raised ⟨"StopIteration", [], "", false⟩ none),
    .respondWith (.object [("took", .int 2)]),
    .search harbours, .search harbours, .search harbours]

/-- Three searches come to what was queued, in order, and the fourth to the answer without hits. -/
theorem run_gives_out_in_order_fourSearches :
    ∃ first second third fourth : Exchange,
      (run fourSearches (.scripted ⟨[.answer (.object [("took", .int 1)])], Script.noHits⟩ []
        false)).1 = [first, second, third, fourth] ∧
      first.result = .ok (.object [("took", .int 1)]) ∧ second.result = .error .brokenOff ∧
      third.result = .ok (.object [("took", .int 2)]) ∧ fourth.result = .ok Script.noHits ∧
      (run fourSearches (.scripted ⟨[.answer (.object [("took", .int 1)])], Script.noHits⟩ []
        false)).2.documents? = some [harbours, harbours, harbours, harbours] := by
  obtain ⟨-, horderly, -, hkept⟩ :=
    run_gives_out_in_order [.answer (.object [("took", .int 1)])] fourSearches
  obtain ⟨hfirst, hothers⟩ := List.forall_mem_cons.mp horderly
  obtain ⟨hsecond, hothers⟩ := List.forall_mem_cons.mp hothers
  obtain ⟨hthird, hothers⟩ := List.forall_mem_cons.mp hothers
  obtain ⟨hfourth, -⟩ := List.forall_mem_cons.mp hothers
  obtain ⟨g, hg, hother | ⟨-, rfl⟩⟩ := hsecond.failure _ rfl
  · subst hother
    cases hg
  · exact ⟨_, _, _, _, rfl, hfirst.answer _ rfl, hg, hthird.answer _ rfl, hfourth.empty rfl, hkept⟩

end Transport
end SearchSource
