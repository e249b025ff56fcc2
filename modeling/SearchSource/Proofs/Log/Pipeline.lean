import SearchSource.Log.Pipeline
import SearchSource.Proofs.Entries
import SearchSource.Proofs.Except
import SearchSource.Proofs.Json.RoundTrip
import SearchSource.Proofs.Log.Redaction

/-! What a line of the log tells of the event that it was written for. Main statement:
`line_tells_given`. -/
namespace SearchSource

namespace Json

theorem writable_object_iff (es : Entries Value) : Writable (.object es) ↔ ∀ e ∈ es, Writable e.2 :=
  ⟨fun h _ he => h.of_part fun _ hu => .entry he hu, writable_object⟩

theorem expressible_object_iff (es : Entries Value) :
    Expressible (.object es) ↔ es.keys.Nodup ∧ ∀ e ∈ es, Expressible e.2 := by
  constructor
  · rintro (_ | _ | _ | _ | _ | _ | _ | ⟨hkeys, h⟩)
    exact ⟨hkeys, h⟩
  · rintro ⟨hkeys, h⟩
    exact .object hkeys h

end Json

namespace LogPipeline

/-- Names under which the logging package hands on what is not to be written. -/
def markNames : List String := ["stack_info", "exc_info", "_record", "_from_structlog"]

/-- Names under which the pipeline itself writes or reads. -/
def reservedNames : List String := ["event", "level", "logger", "timestamp"] ++ markNames

/-- What is written under a name for the value that is given for it. -/
inductive Shown (r : Redaction) (inSequences : Bool) (level : Level) (name : String) (v : Value) :
    Option Value → Prop
  | dropped (hname : name = "search") (hlevel : level ≠ .debug) :
    Shown r inSequences level name v none
  | replaced (hshown : name = "search" → level = .debug) (hs : Text.lower name ∈ r.sensitive) :
    Shown r inSequences level name v (some Redaction.mark)
  | verbatim (hname : name = "search") (hlevel : level = .debug)
    (hs : Text.lower name ∉ r.sensitive) :
    Shown r inSequences level name v (some v)
  | censored (hname : name ≠ "search") (hs : Text.lower name ∉ r.sensitive) {w : Value}
    (hw : r.Censored inSequences v w) : Shown r inSequences level name v (some w)

/-- The value that a name stands for: the call comes before the logger, and the logger before the
context. -/
def givenFor (name : String) (bound fields context : Entries Value) : Option Value :=
  ((fields.lookup name).or (bound.lookup name)).or (context.lookup name)

/-! ### The steps of the logging package -/

/-- An event that no other party has put anything into. -/
def Unmarked (es : Entries Value) : Prop := ∀ name ∈ markNames, es.lookup name = none

/-- A mapping that comes of another one by putting nothing but texts under some names. -/
structure Extends (names : List String) (es es' : Entries Value) : Prop where
  distinct : es'.keys.Nodup
  texts : ∀ e ∈ es', e ∈ es ∨ e.1 ∈ names ∧ ∃ s, e.2 = .text s
  others : ∀ name, name ∉ names → es'.lookup name = es.lookup name

/-- A step that puts nothing but texts under some names of an unmarked event. -/
def Writes (names : List String) (step : LogStep) : Prop :=
  ∀ call {es : Entries Value}, es.keys.Nodup → Unmarked es →
    ∃ es', step call es = .ok es' ∧ Extends names es es'

/-- What is documented of the steps: what they make of events that no other party has put anything
into. -/
structure Documented (p : LogSteps) : Prop where
  distinct : ∀ {bound fields : Entries Value} (event : Value), bound.keys.Nodup →
    (p.collect bound fields event).keys.Nodup
  collected : ∀ (bound fields : Entries Value) (event : Value), ∀ e ∈ p.collect bound fields event,
    e ∈ bound ++ fields ∨ e = ("event", event)
  call : ∀ (bound : Entries Value) {fields : Entries Value} (event : Value), fields.keys.Nodup →
    ∀ name, name ≠ "event" →
      (p.collect bound fields event).lookup name = (fields.lookup name).or (bound.lookup name)
  context : ∀ (context : Entries Value) (call : LogCall) {es : Entries Value}, es.keys.Nodup →
    ∃ es', p.mergeContext context call es = .ok es' ∧ es'.keys.Nodup ∧
      (∀ e ∈ es', e ∈ es ++ context) ∧
      ∀ name, es'.lookup name = (es.lookup name).or (context.lookup name)
  logger : Writes ["logger"] p.addLogger
  level : Writes ["level"] p.addLevel
  time : Writes ["timestamp"] p.addTime
  stack : Writes [] p.renderStack
  record : Writes [] p.removeRecord

section Installed

open LogSteps (installed merged withEvent recordKey)

variable {es : Entries Value}

theorem extends_put (h : es.keys.Nodup) (name s : String) :
    Extends [name] es (Entries.put name (.text s) es) where
  distinct := Entries.nodup_keys_put h name _
  texts := Entries.forall_mem_put (P := fun e => e ∈ es ∨ e.1 ∈ [name] ∧ ∃ s, e.2 = .text s)
    (fun _ he => .inl he) (.inr ⟨List.mem_singleton_self name, s, rfl⟩)
  others k hk := by rw [Entries.lookup_put, if_neg (mt List.mem_singleton.mpr hk)]

theorem extends_drop (h : es.keys.Nodup) {key : String} (hkey : es.lookup key = none) :
    Extends [] es (Entries.drop key es) where
  distinct := Entries.keys_drop key es ▸ h.filter _
  texts _ he := .inl (List.mem_of_mem_filter he)
  others k _ := by
    rw [Entries.lookup_drop]
    split
    · next hk => rw [hk, hkey]
    · rfl

theorem lookup_merged (context es : Entries Value) (k : String) :
    (merged context es).lookup k = (es.lookup k).or (context.lookup k) := by
  induction context generalizing es with
  | nil => simp [merged]
  | cons e context ih =>
    obtain ⟨j, v⟩ := e
    have hstep : merged ((j, v) :: context) es =
        merged context (if Entries.has j es then es else Entries.put j v es) := rfl
    rw [hstep, ih]
    cases hj : es.lookup j with
    | some w =>
      have hhas : Entries.has j es = true := by rw [Entries.has, hj]; rfl
      rw [if_pos hhas]
      by_cases hk : k = j
      · rw [hk, hj, Option.some_or, Option.some_or]
      · rw [Entries.lookup_cons_of_ne hk]
    | none =>
      have hhas : ¬Entries.has j es = true := by simp [Entries.has, hj]
      rw [if_neg hhas, Entries.lookup_put]
      by_cases hk : k = j
      · rw [if_pos hk, hk, hj, List.lookup_cons_self, Option.some_or, Option.none_or]
      · rw [if_neg hk, Entries.lookup_cons_of_ne hk]

theorem nodup_keys_merged (h : es.keys.Nodup) (context : Entries Value) :
    (merged context es).keys.Nodup := by
  induction context generalizing es with
  | nil => exact h
  | cons e context ih =>
    refine ih ?_
    dsimp only
    split
    · exact h
    · exact Entries.nodup_keys_put h e.1 e.2

theorem mem_merged (context es : Entries Value) : ∀ e ∈ merged context es, e ∈ es ++ context := by
  have hmerged {P : String × Value → Prop} {es : Entries Value} (h : ∀ e ∈ es, P e)
      (hcontext : ∀ e ∈ context, P e) : ∀ e ∈ merged context es, P e := by
    induction context generalizing es with
    | nil => exact h
    | cons e context ih =>
      obtain ⟨he, hrest⟩ := List.forall_mem_cons.mp hcontext
      refine ih ?_ hrest
      dsimp only
      split
      · exact h
      · exact Entries.forall_mem_put h he
  exact hmerged (fun _ he => List.mem_append_left _ he) fun _ he => List.mem_append_right _ he

theorem documented_installed (now : String) : Documented (installed now) where
  distinct event hbound := by
    simp only [installed, withEvent]
    split
    · exact Entries.nodup_keys_merge hbound _
    · exact Entries.nodup_keys_put (Entries.nodup_keys_merge hbound _) _ _
  collected bound fields event := by
    have hmerged : ∀ e ∈ Entries.merge bound fields, e ∈ bound ++ fields ∨ e = ("event", event) :=
      Entries.forall_mem_merge (fun _ he => .inl (List.mem_append_left _ he)) fun _ he =>
        .inl (List.mem_append_right _ he)
    simp only [installed, withEvent]
    split
    · exact hmerged
    · exact Entries.forall_mem_put hmerged (.inr rfl)
  call bound fields event hfields name hname := by
    simp only [installed, withEvent]
    split
    · rw [Entries.lookup_merge_of_nodup hfields]
    · rw [Entries.lookup_put, if_neg hname, Entries.lookup_merge_of_nodup hfields]
  context context _ es h :=
    ⟨_, rfl, nodup_keys_merged h context, mem_merged context es, lookup_merged context es⟩
  logger call es h hunmarked := by
    have hrecord : es.lookup recordKey = none := hunmarked _ (by decide)
    refine ⟨_, ?_, extends_put h "logger"
      (if call.logger = "" then LogSteps.rootLogger else call.logger)⟩
    simp only [installed, LogSteps.loggerName, hrecord]
    rfl
  level call es h _ := ⟨_, rfl, extends_put h "level" call.level.word⟩
  time _ es h _ := ⟨_, rfl, extends_put h "timestamp" now⟩
  stack _ es h hunmarked := ⟨_, rfl, extends_drop h (hunmarked _ (by decide))⟩
  record _ es h hunmarked := by
    have hdropped := extends_drop h (hunmarked recordKey (by decide))
    have hfrom : (Entries.drop recordKey es).lookup "_from_structlog" = none :=
      (hdropped.others _ List.not_mem_nil).trans (hunmarked _ (by decide))
    have hlast := extends_drop hdropped.distinct hfrom
    refine ⟨_, rfl, hlast.distinct, fun e he => ?_, fun k hk => ?_⟩
    · exact .inl (List.mem_of_mem_filter (List.mem_of_mem_filter he))
    · exact (hlast.others k hk).trans (hdropped.others k hk)

end Installed

/-! ### The way of an event -/

/-- A kind of values that all texts are of, and mappings by their keys and values. -/
structure Kind (P : Value → Prop) (R : List String → Prop) : Prop where
  text : ∀ s, P (.text s)
  object : ∀ es : Entries Value, P (.object es) ↔ R es.keys ∧ ∀ e ∈ es, P e.2

theorem kind_writable : Kind Json.Writable fun _ => True where
  text := Json.writable_text
  object es := by rw [Json.writable_object_iff, true_and]

theorem kind_expressible : Kind Json.Expressible List.Nodup := ⟨.text, Json.expressible_object_iff⟩

section Steps

variable {names : List String} {es es' : Entries Value}

theorem Extends.unmarked (h : Extends names es es') (hnames : ∀ name ∈ markNames, name ∉ names)
    (hes : Unmarked es) : Unmarked es' :=
  fun name hname => (h.others name (hnames name hname)).trans (hes name hname)

theorem Extends.forall_mem {P : Value → Prop} (h : Extends names es es') (htext : ∀ s, P (.text s))
    (hes : ∀ e ∈ es, P e.2) : ∀ e ∈ es', P e.2 := by
  intro e he
  rcases h.texts e he with hmem | ⟨-, s, hs⟩
  · exact hes e hmem
  · exact hs ▸ htext s

theorem word_eq_debug {level : Level} : level.word = "debug" ↔ level = .debug := by
  cases level <;> decide

theorem lookup_dropSearch (level : Level) (es : Entries Value) (name : String) :
    (dropSearch level.word es).lookup name =
      if name = "search" ∧ level ≠ .debug then none else es.lookup name := by
  unfold dropSearch
  by_cases hlevel : level = .debug
  · rw [if_pos (word_eq_debug.mpr hlevel), if_neg (fun h => h.2 hlevel)]
  · rw [if_neg (mt word_eq_debug.mp hlevel), Entries.lookup_drop]
    simp [hlevel]

theorem sublist_dropSearch (method : String) (es : Entries Value) :
    (dropSearch method es).Sublist es := by
  unfold dropSearch
  split
  · exact List.Sublist.refl es
  · exact List.filter_sublist

theorem Extends.trans {more : List String} {es'' : Entries Value} (h : Extends names es es')
    (h' : Extends more es' es'') : Extends (names ++ more) es es'' where
  distinct := h'.distinct
  texts e he := by
    rcases h'.texts e he with hmem | ⟨hname, hs⟩
    · exact (h.texts e hmem).imp_right (And.imp_left (List.mem_append_left _))
    · exact .inr ⟨List.mem_append_right _ hname, hs⟩
  others k hk := by
    rw [List.mem_append, not_or] at hk
    exact (h'.others k hk.2).trans (h.others k hk.1)

/-- What has become of an event with these entries and those of its context. -/
structure Processed (r : Redaction) (level : Level) (es es' : Entries Value) : Prop where
  distinct : es'.keys.Nodup
  unmarked : Unmarked es'
  values : ∀ {P R}, Kind P R → (∀ e ∈ es, P e.2) → ∀ e ∈ es', P e.2
  others : ∀ name, name ∉ reservedNames → es'.lookup name =
    if name = "search" ∧ level ≠ .debug then none
    else (es.lookup name).map (r.redacted r.skipped name)

end Steps

section Run

variable {p : LogSteps} (hp : Documented p) (r : Redaction) (call : LogCall)
  {es context : Entries Value}

include hp

theorem run_steps (hdistinct : es.keys.Nodup) (hkeys : ∀ e ∈ es ++ context, e.2.HasTextKeys)
    (hmarks : Unmarked (es ++ context)) :
    ∃ es', run (steps p r context) call es = .ok es' ∧
      Processed r call.level (es ++ context) es' := by
  obtain ⟨merged, hmerge, hdistinct, hmem, hlookup⟩ := hp.context context call hdistinct
  have hkeys : ∀ e ∈ merged, e.2.HasTextKeys := fun e he => hkeys e (hmem e he)
  have hlookup (name : String) : merged.lookup name = (es ++ context).lookup name :=
    (hlookup name).trans List.lookup_append.symm
  have hredact : r.process merged = .ok (r.replaced r.skipped merged) :=
    r.deep_eq_replaced r.skipped hkeys
  have hunmarked : Unmarked (r.replaced r.skipped merged) := by
    intro name hname
    rw [Redaction.lookup_replaced, hlookup, hmarks name hname, Option.map_none]
  obtain ⟨named, hname, hlogger⟩ :=
    hp.logger call (Redaction.keys_replaced r.skipped merged ▸ hdistinct) hunmarked
  obtain ⟨levelled, hlevel, hlevels⟩ :=
    hp.level call hlogger.distinct (hlogger.unmarked (by decide) hunmarked)
  have hfront := hlogger.trans hlevels
  -- the bodies of searches are dropped between the steps that only add to the event
  have hsub := sublist_dropSearch call.level.word levelled
  have hsearch : Unmarked (dropSearch call.level.word levelled) := by
    intro name hname
    rw [lookup_dropSearch, hfront.unmarked (by decide) hunmarked name hname, ite_self]
  obtain ⟨timed, htime, htimes⟩ := hp.time call ((hsub.map _).nodup hfront.distinct) hsearch
  obtain ⟨last, hstack, hstacks⟩ :=
    hp.stack call htimes.distinct (htimes.unmarked (by decide) hsearch)
  have hback := htimes.trans hstacks
  refine ⟨last, ?run, hback.distinct, hback.unmarked (by decide) hsearch, ?values, ?others⟩
  case run =>
    simp only [run, steps, List.foldlM_cons, List.foldlM_nil, hmerge, hredact, hname, hlevel, htime,
      hstack, Except.bind_ok]
    rfl
  case values =>
    intro P R hP hes
    have hredacted : ∀ e ∈ r.replaced r.skipped merged, P e.2 :=
      Redaction.forall_mem_replaced (hP.text _) hP.object r.skipped merged fun e he =>
        hes e (hmem e he)
    exact hback.forall_mem hP.text fun e he =>
      hfront.forall_mem hP.text hredacted e (hsub.subset he)
  case others =>
    intro name hname
    simp only [reservedNames, List.cons_append, List.mem_cons, List.nil_append, not_or] at hname
    obtain ⟨-, hlevel, hlogger, htime, -⟩ := hname
    rw [hback.others name (by simp [htime]), lookup_dropSearch,
      hfront.others name (by simp [hlevel, hlogger]), Redaction.lookup_replaced, hlookup]

theorem Processed.formatted (hes : Processed r call.level es context)
    (hvalues : ∀ e ∈ es, Json.Writable e.2) (c : LogConfig) :
    ∃ payload, format? p c call context =
        .ok (if call.level.weight < c.threshold call.logger then none
          else some (Json.write style (.object payload))) ∧ Processed r call.level es payload := by
  obtain ⟨payload, hrecord, hrecords⟩ := hp.record call hes.distinct hes.unmarked
  have hwritable : ∀ e ∈ payload, Json.Writable e.2 :=
    hrecords.forall_mem Json.writable_text (hes.values kind_writable hvalues)
  have hfault : Json.fault? (.object payload) = none :=
    Json.fault?_eq_none (Json.writable_object hwritable)
  refine ⟨payload, ?_, hrecords.distinct, hrecords.unmarked (by decide) hes.unmarked, ?_, ?_⟩
  · unfold format?
    rw [hrecord, Except.bind_ok, hfault]
    split <;> rfl
  · exact fun hP hvalues => hrecords.forall_mem hP.text (hes.values hP hvalues)
  · exact fun name hname => (hrecords.others name List.not_mem_nil).trans (hes.others name hname)

end Run

section Line

variable {bound fields context : Entries Value}

theorem unmarked_of_names {es : Entries Value} (hnames : ∀ k ∈ es.keys, k ∉ reservedNames) :
    Unmarked es :=
  fun _ hname => Entries.lookup_eq_none.mpr fun hmem =>
    hnames _ hmem (List.mem_append_right _ hname)

/-- An entry that JSON can be written of leads to a line, unless it is below its threshold. -/
theorem line?_own {p : LogSteps} (hp : Documented p) (c : LogConfig) (logger : String)
    (level : Level) (event : Value) (hbound : bound.keys.Nodup) (hfields : fields.keys.Nodup)
    (hnames : ∀ k ∈ bound.keys ++ fields.keys ++ context.keys, k ∉ reservedNames)
    (hvalues : ∀ e ∈ p.collect bound fields event ++ context, Json.Writable e.2) :
    ∃ payload, line? p c (.own logger level event bound fields context) =
        .ok (if level.weight < c.threshold logger then none
          else some (Json.write style (.object payload))) ∧
      Processed c.redaction level (p.collect bound fields event ++ context) payload := by
  have hname {es : Entries Value}
      (hes : ∀ k ∈ es.keys, k ∈ bound.keys ++ fields.keys ++ context.keys) :
      Unmarked es := unmarked_of_names fun k hk => hnames k (hes k hk)
  have hmarks : Unmarked (p.collect bound fields event ++ context) := by
    intro name hmark
    have hfield : fields.lookup name = none := hname (by simp +contextual) name hmark
    have hbind : bound.lookup name = none := hname (by simp +contextual) name hmark
    have hcontext : context.lookup name = none := hname (by simp +contextual) name hmark
    have hevent : name ≠ "event" := by
      rintro rfl
      exact absurd hmark (by decide)
    rw [List.lookup_append, hp.call bound event hfields name hevent, hfield, hbind, hcontext]
    rfl
  obtain ⟨es, hrun, hes⟩ := run_steps hp c.redaction ⟨logger, level⟩ (hp.distinct event hbound)
    (fun e he => (hvalues e he).hasTextKeys) hmarks
  obtain ⟨payload, hformat, hpayload⟩ := hes.formatted hp _ _ hvalues c
  refine ⟨payload, ?_, hpayload⟩
  simp only [line?, hrun, Except.bind_ok, hformat]

end Line

/-- Under a name that is given, the pipeline writes what is shown of its value. -/
theorem shown_redacted {r : Redaction} (hskipped : r.skipped = Redaction.defaultSkipped)
    (level : Level) (name : String) (v : Value) : Shown r false level name v
      (if name = "search" ∧ level ≠ .debug then none else some (r.redacted r.skipped name v)) := by
  have hskip : name ∈ r.skipped ↔ name = "search" := by rw [hskipped]; exact List.mem_singleton
  unfold Redaction.redacted
  by_cases hname : name = "search"
  · by_cases hlevel : level = .debug
    · rw [if_neg fun h => h.2 hlevel]
      by_cases hs : Text.lower name ∈ r.sensitive
      · rw [if_pos hs]
        exact .replaced (fun _ => hlevel) hs
      · rw [if_neg hs, if_pos (hskip.mpr hname)]
        exact .verbatim hname hlevel hs
    · rw [if_pos ⟨hname, hlevel⟩]
      exact .dropped hname hlevel
  · rw [if_neg fun h => hname h.1]
    by_cases hs : Text.lower name ∈ r.sensitive
    · rw [if_pos hs]
      exact .replaced (fun h => absurd h hname) hs
    · rw [if_neg hs, if_neg (mt hskip.mp hname)]
      exact .censored hname hs (Redaction.censored_within v)

/-- An event that reaches its threshold, and of which JSON can be written, leads to one line. The
line is of a payload that holds, for each name from the call, the logger or the context, what is
shown of the value given there, and nothing for names that are not given; but for the names of the
pipeline itself. If JSON has a form for the values, the payload is read from the line. -/
theorem line_tells_given {p : LogSteps} (hp : Documented p) (c : LogConfig)
    (sensitive : List String)
    (hc : c.redaction = Redaction.ofFields sensitive Redaction.defaultSkipped) (logger : String)
    (level : Level) (event : Value) (bound fields context : Entries Value)
    (hbound : bound.keys.Nodup) (hfields : fields.keys.Nodup)
    (hnames : ∀ k ∈ bound.keys ++ fields.keys ++ context.keys, k ∉ reservedNames)
    (hevent : Json.Writable event) (hvalues : ∀ e ∈ bound ++ fields ++ context, Json.Writable e.2) :
    ∃ payload : Entries Value,
      line? p c (.own logger level event bound fields context) =
        .ok (if level.weight < c.threshold logger then none
          else some (Json.write style (.object payload))) ∧
      (Json.Expressible event → (∀ e ∈ bound ++ fields ++ context, Json.Expressible e.2) →
        Json.read (Json.write style (.object payload)) = .ok (Json.decoded (.object payload))) ∧
      ∀ name, name ∉ reservedNames →
        (givenFor name bound fields context = none → payload.lookup name = none) ∧
        ∀ v, givenFor name bound fields context = some v →
          Shown c.redaction false level name v (payload.lookup name) := by
  have hskipped : c.redaction.skipped = Redaction.defaultSkipped := by rw [hc]; rfl
  have hgathered {P : Value → Prop} (hevent : P event)
      (hvalues : ∀ e ∈ bound ++ fields ++ context, P e.2) :
      ∀ e ∈ p.collect bound fields event ++ context, P e.2 := by
    intro e he
    rcases List.mem_append.mp he with he | he
    · rcases hp.collected bound fields event e he with he | rfl
      · exact hvalues e (List.mem_append_left _ he)
      · exact hevent
    · exact hvalues e (List.mem_append_right _ he)
  obtain ⟨payload, hline, hpayload⟩ :=
    line?_own hp c logger level event hbound hfields hnames (hgathered hevent hvalues)
  refine ⟨payload, hline, ?read, ?shown⟩
  case read =>
    intro hevent hvalues
    exact Json.read_write style
      (.object hpayload.distinct (hpayload.values kind_expressible (hgathered hevent hvalues)))
  case shown =>
    intro name hname
    have hne : name ≠ "event" := by
      rintro rfl
      exact hname (by decide)
    have hlookup := hpayload.others name hname
    rw [List.lookup_append, hp.call bound event hfields name hne] at hlookup
    constructor
    · intro hnone
      have hnone : ((fields.lookup name).or (bound.lookup name)).or (context.lookup name) = none :=
        hnone
      rw [hlookup, hnone, Option.map_none, ite_self]
    · intro v hv
      have hv : ((fields.lookup name).or (bound.lookup name)).or (context.lookup name) = some v :=
        hv
      rw [hlookup, hv, Option.map_some]
      exact shown_redacted hskipped level name v

/-- Nothing is sensitive but the default names, and information is written. -/
def defaultConfig : LogConfig :=
  ⟨LogConfig.defaultLevel, LogConfig.defaultTransportLevel,
    Redaction.ofFields [] Redaction.defaultSkipped⟩

/-- What a call says of a connection, and what its context says. -/
def connectedFields : Entries Value :=
  [("node", .text "http://es"), ("search", .object [("token", .text "abc")]),
    ("hosts", .list [.int 1])]

def connectedContext : Entries Value := [("password", .text "secret"), ("node", .null)]

theorem line_tells_given_connected :
    (∀ k ∈ connectedFields.keys ++ connectedContext.keys, k ∉ reservedNames) ∧
    ∃ payload : Entries Value,
      line? (.installed "now") defaultConfig
          (.own "app" .info (.text "connected") [] connectedFields connectedContext) =
        .ok (some (Json.write style (.object payload))) ∧
      Json.read (Json.write style (.object payload)) = .ok (Json.decoded (.object payload)) ∧
      payload.lookup "password" = some Redaction.mark ∧ payload.lookup "search" = none ∧
      payload.lookup "hosts" = some (.list [.int 1]) ∧ payload.lookup "tenant" = none := by
  have hvalues : ∀ e ∈ [] ++ connectedFields ++ connectedContext, Json.Expressible e.2 := by
    simp only [List.nil_append, List.forall_mem_append, connectedFields, connectedContext,
      List.forall_mem_cons]
    exact ⟨⟨.text _, .object (by decide) (List.forall_mem_singleton.mpr (.text _)),
      .list (List.forall_mem_singleton.mpr (Json.expressible_int (by decide))), nofun⟩,
        .text _, .null, nofun⟩
  have hnames : ∀ k ∈ connectedFields.keys ++ connectedContext.keys, k ∉ reservedNames := by decide
  obtain ⟨payload, hline, hread, hshown⟩ :=
    line_tells_given (documented_installed "now") defaultConfig [] rfl "app" .info
      (.text "connected") [] connectedFields connectedContext (by decide) (by decide) hnames
      (Json.writable_text _) fun e he => (hvalues e he).writable
  have hpassword := (hshown "password" (by decide)).2 (.text "secret") rfl
  have hsearch := (hshown "search" (by decide)).2 (.object [("token", .text "abc")]) rfl
  have hhosts := (hshown "hosts" (by decide)).2 (.list [.int 1]) rfl
  refine ⟨hnames, payload, hline, hread (.text _) hvalues, ?_, ?_, ?_,
    (hshown "tenant" (by decide)).1 rfl⟩
  · have hs : Text.lower "password" ∈ defaultConfig.redaction.sensitive :=
      (Redaction.mem_sensitive_defaults (by decide) _).mpr (by decide)
    generalize payload.lookup "password" = shown at hpassword ⊢
    cases hpassword with
    | dropped hname => exact absurd hname (by decide)
    | replaced => rfl
    | verbatim _ _ hns => exact absurd hs hns
    | censored _ hns => exact absurd hs hns
  · generalize payload.lookup "search" = shown at hsearch ⊢
    cases hsearch with
    | dropped => rfl
    | replaced hdebug => exact absurd (hdebug rfl) (by decide)
    | verbatim _ hdebug => exact absurd hdebug (by decide)
    | censored hname => exact absurd rfl hname
  · have hs : Text.lower "hosts" ∉ defaultConfig.redaction.sensitive :=
      mt (Redaction.mem_sensitive_defaults (by decide) _).mp (by decide)
    generalize payload.lookup "hosts" = shown at hhosts ⊢
    cases hhosts with
    | dropped hname => exact absurd hname (by decide)
    | replaced _ hhs => exact absurd hhs hs
    | verbatim hname => exact absurd hname (by decide)
    | censored _ _ hw =>
      cases hw with
      | list hin => exact absurd hin (by decide)
      | whole => rfl

/-- A call that names the nodes of a cluster, one of them with a password. -/
def clusterFields : Entries Value := [("nodes", .list [.object [("password", .text "changeme")]])]

/-- A password in a mapping inside of a list is written. -/
theorem clusterFields_shows_password :
    ∃ payload : Entries Value,
      line? (.installed "now") defaultConfig
        (.own "app" .info (.text "connected") [] clusterFields []) =
        .ok (some (Json.write style (.object payload))) ∧
      givenFor "nodes" [] clusterFields [] =
        some (.list [.object [("password", .text "changeme")]]) ∧
      ¬Shown defaultConfig.redaction true .info "nodes"
        (.list [.object [("password", .text "changeme")]])
        (payload.lookup "nodes") := by
  have hvalues :
      ∀ e ∈ (LogSteps.installed "now").collect [] clusterFields (.text "connected") ++ [],
      Json.Writable e.2 := by
    refine List.forall_mem_cons.mpr ⟨Json.writable_list (List.forall_mem_singleton.mpr ?_), ?_⟩
    · exact Json.writable_object (List.forall_mem_singleton.mpr (Json.writable_text _))
    · exact List.forall_mem_singleton.mpr (Json.writable_text _)
  have hpassword : Text.lower "password" ∈ defaultConfig.redaction.sensitive :=
    (Redaction.mem_sensitive_defaults (by decide) _).mpr (by decide)
  have hnodes : Text.lower "nodes" ∉ defaultConfig.redaction.sensitive :=
    mt (Redaction.mem_sensitive_defaults (by decide) _).mp (by decide)
  obtain ⟨payload, hline, hpayload⟩ :=
    line?_own (documented_installed "now") defaultConfig "app" .info (.text "connected")
    (by decide) (by decide) (by decide) hvalues
  refine ⟨payload, hline, rfl, ?_⟩
  · have hgiven : List.lookup "nodes"
        ((LogSteps.installed "now").collect [] clusterFields (.text "connected") ++ []) =
          some (.list [.object [("password", .text "changeme")]]) := rfl
    rw [hpayload.others "nodes" (by decide), if_neg (by decide), hgiven, Option.map_some,
      Redaction.redacted, if_neg hnodes, if_neg (by decide)]
    intro hshown
    cases hshown with
    | verbatim hname => exact absurd hname (by decide)
    | censored _ _ hw =>
      cases hw with
      | list _ hitems =>
        obtain _ | ⟨hnode, -⟩ := hitems
        cases hnode with
        | object hentries =>
          have hmark := hentries.head?_of_sensitive hpassword
          simp [Redaction.mark] at hmark
        | whole hobject => exact hobject _ rfl
      | whole _ hsequence => exact absurd (hsequence rfl) (by decide)

end LogPipeline
end SearchSource
