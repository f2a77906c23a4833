import StepEngine.Engine.Setup
import StepEngine.Proofs.Recorder

/-!
# A recorder and its log

What a recorder holds, and what it answers next, can be read off the log of all that was done with
it: it is a map whose ids stand in the order in which they came first, beside a list of calls to
which entries are only added.

* `Recorder.Action`, `Recorder.perform` : what can be done with a recorder, and how it is answered;
* `Recorder.Log` : actions with their answers, in order; `Log.functions`, `Log.triggers`,
  `Log.calls` and so on are what it says was registered, called or scripted, `Log.replyTo` is what it
  says an action is answered next;
* `Recorder.ofLog` : the recorder of a log. One action leads from the recorder of a log to that of
  the log with this action (`perform_ofLog`), and so do actions one after the other
  (`performAll_ofLog`);
* `Recorder.InFirstOrder` : each id once, in the order in which they came first;
* `Recorder.Follows` : what a recorder shows, in terms of its log; `recorders_follow_logs` : so it
  is after all actions, and the transport of an engine looks up its functions in the same way.
-/

namespace StepEngine

namespace Recorder

variable {φ : Type}

/-! ## Actions -/

inductive Action (φ : Type) where
  | registerFunction (id : String) (f : φ)
  | registerTrigger (t : TriggerRegistration)
  | call (call : OutboundCall)
  | respondWith (operation : String) (value : Json)
  | failWith (operation details : String)
  | rejectRegistration (id details : String)

/-- What an action is answered; `null` where there is nothing to say. -/
abbrev Reply := Except StepError Json

def outcome (r : Recorder φ) : Except StepError (Recorder φ) → Reply × Recorder φ
  | .ok next => (.ok .null, next)
  | .error error => (.error error, r)

/-- An action: the answer, and the recorder after it. -/
def perform (r : Recorder φ) : Action φ → Reply × Recorder φ
  | .registerFunction id f => r.outcome (r.registerFunction id f)
  | .registerTrigger t => r.outcome (r.registerTrigger t)
  | .call c => r.call c
  | .respondWith operation value => (.ok .null, r.respondWith operation value)
  | .failWith operation details => (.ok .null, r.failWith operation details)
  | .rejectRegistration id details => (.ok .null, r.rejectRegistration id details)

/-- An action and what it was answered. -/
structure Entry (φ : Type) where
  action : Action φ
  reply : Reply

abbrev Log (φ : Type) := List (Entry φ)

/-- Actions one after the other: their log, and the recorder after them. -/
def performAll (r : Recorder φ) : List (Action φ) → Log φ × Recorder φ
  | [] => ([], r)
  | a :: rest =>
    let (reply, next) := r.perform a
    let (log, last) := next.performAll rest
    (⟨a, reply⟩ :: log, last)

/-! ## What a log says -/

namespace Entry

@[simp] def function? : Entry φ → Option (String × φ)
  | ⟨.registerFunction id f, .ok _⟩ => some (id, f)
  | _ => none

@[simp] def trigger? : Entry φ → Option TriggerRegistration
  | ⟨.registerTrigger t, .ok _⟩ => some t
  | _ => none

/-- The call that was made, whatever it was answered. -/
@[simp] def call? : Entry φ → Option OutboundCall
  | ⟨.call c, _⟩ => some c
  | _ => none

@[simp] def response? : Entry φ → Option (String × Json)
  | ⟨.respondWith operation value, _⟩ => some (operation, value)
  | _ => none

@[simp] def failure? : Entry φ → Option (String × String)
  | ⟨.failWith operation details, _⟩ => some (operation, details)
  | _ => none

@[simp] def rejection? : Entry φ → Option (String × String)
  | ⟨.rejectRegistration id details, _⟩ => some (id, details)
  | _ => none

end Entry

/-- The last of the values that a list has for a key. -/
def latest {α : Type} (key : String) (pairs : List (String × α)) : Option α :=
  pairs.reverse.lookup key

namespace Log

variable (log : Log φ)

def functions : List (String × φ) := log.filterMap Entry.function?
def triggers : List TriggerRegistration := log.filterMap Entry.trigger?
def calls : List OutboundCall := log.filterMap Entry.call?
def responses : List (String × Json) := log.filterMap Entry.response?
def failures : List (String × String) := log.filterMap Entry.failure?
def rejections : List (String × String) := log.filterMap Entry.rejection?

/-- What a registration under an id is answered: it is refused once the id has been rejected. -/
def registrationReply (operation id : String) : Reply :=
  match latest id log.rejections with
  | some details => .error (.transport operation details)
  | none => .ok .null

/-- What a call of an operation is answered: a failure first, then a value, then `null`. -/
def callReply (operation : String) : Reply :=
  match latest operation log.failures with
  | some details => .error (.transport operation details)
  | none => .ok ((latest operation log.responses).getD .null)

def replyTo : Action φ → Reply
  | .registerFunction id _ => log.registrationReply "register_function" id
  | .registerTrigger t => log.registrationReply "register_trigger" t.functionId
  | .call c => log.callReply c.operation
  | .respondWith _ _ | .failWith _ _ | .rejectRegistration _ _ => .ok .null

/-- A log with one more action, which is answered as the log says. -/
def add (a : Action φ) : Log φ := log ++ [⟨a, log.replyTo a⟩]

end Log

/-! ## The recorder of a log -/

def ofLog (log : Log φ) : Recorder φ where
  functions := putAll log.functions []
  triggers := log.triggers
  calls := log.calls
  responses := .ofList log.responses
  failures := .ofList log.failures
  rejections := .ofList log.rejections

@[simp] theorem ofLog_nil : ofLog ([] : Log φ) = empty := rfl

/-- A log with one more entry has what the log has and what the entry adds. -/
theorem filterMap_add {α : Type} (read : Entry φ → Option α) (log : Log φ) (a : Action φ) :
    (log.add a).filterMap read = log.filterMap read ++ (read ⟨a, log.replyTo a⟩).toList := by
  have hlast (e : Entry φ) : [e].filterMap read = (read e).toList := by
    cases h : read e <;> simp [h]
  rw [Log.add, List.filterMap_append, hlast]

/-- What one more action leaves. -/
theorem ofLog_add (log : Log φ) (a : Action φ) :
    let e : Entry φ := ⟨a, log.replyTo a⟩
    ofLog (log.add a) = {
      functions := putAll (log.functions ++ e.function?.toList) []
      triggers := log.triggers ++ e.trigger?.toList
      calls := log.calls ++ e.call?.toList
      responses := .ofList (log.responses ++ e.response?.toList)
      failures := .ofList (log.failures ++ e.failure?.toList)
      rejections := .ofList (log.rejections ++ e.rejection?.toList) } := by
  simp only [ofLog, Log.functions, Log.triggers, Log.calls, Log.responses, Log.failures,
    Log.rejections, filterMap_add]

theorem ofList_concat {α : Type} (pairs : List (String × α)) (key : String) (value : α) :
    SortedMap.ofList (pairs ++ [(key, value)]) = (SortedMap.ofList pairs).insert key value := by
  rw [SortedMap.ofList, List.foldl_append]
  rfl

/-- A registration is refused when the id has been rejected, and carried out otherwise. -/
theorem refusal?_ofLog (log : Log φ) (operation id : String) :
    (ofLog log).refusal? operation id =
      (latest id log.rejections).map (.transport operation) := by
  have hfind : (ofLog log).rejections.find? id = latest id log.rejections :=
    SortedMap.find?_ofList _ _
  rw [refusal?, hfind]

theorem answer_ofLog (log : Log φ) (operation : String) :
    (ofLog log).answer operation = log.callReply operation := by
  have hfailure : (ofLog log).failures.find? operation = latest operation log.failures :=
    SortedMap.find?_ofList _ _
  have hresponse : (ofLog log).responses.find? operation = latest operation log.responses :=
    SortedMap.find?_ofList _ _
  rw [answer, hfailure, hresponse]
  rfl

/-- An action is answered as the log says, and leads to the recorder of the log with this action. -/
theorem perform_ofLog (log : Log φ) (a : Action φ) :
    (ofLog log).perform a = (log.replyTo a, ofLog (log.add a)) := by
  rw [ofLog_add]
  cases a with
  | registerFunction id f =>
    simp only [perform, registerFunction, refusal?_ofLog, Log.replyTo, Log.registrationReply]
    cases latest id log.rejections with
    | none => simp [outcome, ofLog, putAll_append]
    | some details => simp [outcome, ofLog]
  | registerTrigger t =>
    simp only [perform, registerTrigger, refusal?_ofLog, Log.replyTo, Log.registrationReply]
    cases latest t.functionId log.rejections with
    | none => simp [outcome, ofLog]
    | some details => simp [outcome, ofLog]
  | call c =>
    rw [perform, call, answer_ofLog]
    simp [ofLog, Log.replyTo]
  | respondWith operation value => simp [perform, respondWith, ofLog, ofList_concat, Log.replyTo]
  | failWith operation details => simp [perform, failWith, ofLog, ofList_concat, Log.replyTo]
  | rejectRegistration id details =>
    simp [perform, rejectRegistration, ofLog, ofList_concat, Log.replyTo]

theorem map_action_performAll (r : Recorder φ) (actions : List (Action φ)) :
    (r.performAll actions).1.map Entry.action = actions := by
  induction actions generalizing r with
  | nil => rfl
  | cons a rest ih => exact congrArg (a :: ·) (ih _)

/-- Actions one after the other lead to the recorder of the log with all of them. -/
theorem performAll_ofLog (log : Log φ) (actions : List (Action φ)) :
    ((ofLog log).performAll actions).2 = ofLog (log ++ ((ofLog log).performAll actions).1) := by
  induction actions generalizing log with
  | nil =>
    show ofLog log = ofLog (log ++ [])
    rw [List.append_nil]
  | cons a rest ih =>
    -- the rest is done with the recorder of the log that has this action already
    have hrest := ih (log.add a)
    have hsplit (made : Log φ) : log.add a ++ made = log ++ ⟨a, log.replyTo a⟩ :: made := by
      rw [Log.add, List.append_assoc, List.singleton_append]
    simp only [performAll, perform_ofLog]
    rw [hrest, hsplit]

/-! ## What a recorder shows -/

theorem lookup_putAll (id : String) (added functions : List (String × φ)) :
    (putAll added functions).lookup id = (latest id added).or (functions.lookup id) := by
  induction added generalizing functions with
  | nil => rfl
  | cons entry added ih =>
    have hlast : latest id (entry :: added) =
        (latest id added).or (if id = entry.1 then some entry.2 else none) := by
      rw [latest, List.reverse_cons, List.lookup_append, SortedMap.lookup_cons_eq]
      rfl
    rw [putAll_cons, ih, hlast, Option.or_assoc]
    by_cases h : id = entry.1
    · rw [if_pos h, h, lookup_put_self, Option.some_or]
    · rw [if_neg h, lookup_put_of_ne h, Option.none_or]

theorem map_fst_put_of_mem {id : String} {functions : List (String × φ)}
    (h : id ∈ functions.map (·.1)) (f : φ) :
    (put id f functions).map (·.1) = functions.map (·.1) := by
  induction functions with
  | nil => cases h
  | cons entry rest ih =>
    obtain ⟨other, g⟩ := entry
    rw [put]
    split
    · next heq => rw [List.map_cons, List.map_cons, heq]
    · next hne =>
      have hrest : id ∈ rest.map (·.1) := by
        rcases List.mem_cons.1 h with heq | hrest
        · exact absurd heq.symm hne
        · exact hrest
      rw [List.map_cons, List.map_cons, ih hrest]

/-- Each of the ids of a list once, in the order in which they come first. -/
structure InFirstOrder (whole ids : List String) : Prop where
  nodup : ids.Nodup
  mem_iff : ∀ id, id ∈ ids ↔ id ∈ whole
  order : ids.Pairwise fun a b => whole.idxOf a < whole.idxOf b

theorem idxOf_concat_of_mem {whole : List String} {id : String} (h : id ∈ whole) (last : String) :
    (whole ++ [last]).idxOf id = whole.idxOf id := by
  rw [List.idxOf_append, if_pos h]

/-- An id that comes again changes nothing, and a new one stands at the end. -/
theorem InFirstOrder.put {whole : List String} {functions : List (String × φ)}
    (h : InFirstOrder whole (functions.map (·.1))) (id : String) (f : φ) :
    InFirstOrder (whole ++ [id]) ((Recorder.put id f functions).map (·.1)) := by
  have hkept : (functions.map (·.1)).Pairwise fun a b =>
      (whole ++ [id]).idxOf a < (whole ++ [id]).idxOf b := by
    refine h.order.imp_of_mem fun {a b} ha hb hlt => ?_
    rw [idxOf_concat_of_mem ((h.mem_iff a).1 ha), idxOf_concat_of_mem ((h.mem_iff b).1 hb)]
    exact hlt
  -- an id that is there already keeps its first place, and a new one comes after all others
  by_cases hmem : id ∈ functions.map (·.1)
  · rw [map_fst_put_of_mem hmem]
    refine ⟨h.nodup, fun other => ?_, hkept⟩
    have hid : id ∈ whole := (h.mem_iff id).1 hmem
    rw [h.mem_iff, List.mem_append, List.mem_singleton]
    constructor
    · exact .inl
    · rintro (hother | rfl)
      · exact hother
      · exact hid
  · have hid : id ∉ whole := fun hmem' => hmem ((h.mem_iff id).2 hmem')
    rw [put_of_fresh hmem, List.map_append, List.map_singleton]
    refine ⟨?_, fun other => ?_, ?_⟩
    · refine List.nodup_append.2 ⟨h.nodup, List.pairwise_singleton _ _, fun a ha b hb heq => ?_⟩
      have hb' : b = id := List.mem_singleton.1 hb
      rw [heq, hb'] at ha
      exact hmem ha
    · rw [List.mem_append, List.mem_append, h.mem_iff]
    · refine List.pairwise_append.2 ⟨hkept, List.pairwise_singleton _ _, fun a ha b hb => ?_⟩
      have hbefore : whole.idxOf a < whole.length :=
        List.idxOf_lt_length_of_mem ((h.mem_iff a).1 ha)
      rw [List.mem_singleton.1 hb, idxOf_concat_of_mem ((h.mem_iff a).1 ha), List.idxOf_append,
        if_neg hid]
      omega

theorem inFirstOrder_putAll {whole : List String} {functions : List (String × φ)}
    (h : InFirstOrder whole (functions.map (·.1))) (added : List (String × φ)) :
    InFirstOrder (whole ++ added.map (·.1)) ((putAll added functions).map (·.1)) := by
  induction added generalizing whole functions with
  | nil => simpa using h
  | cons entry added ih =>
    have hrest := ih (h.put entry.1 entry.2)
    rwa [List.append_assoc] at hrest

/-- An id that is registered again keeps its place. -/
example :
    let r := ((empty : Recorder Nat).performAll [.registerFunction "a" 1, .registerFunction "b" 2,
      .registerFunction "a" 3]).2
    r.functionIds = ["a", "b"] ∧ r.function? "a" = some 3 := by decide

/-- The function that an invocation of an id runs, or why there is none. -/
def handler (r : Recorder φ) (id : String) : Except StepError φ :=
  match r.function? id with
  | some f => .ok f
  | none => .error (.configuration (.unknownFunction id))

/-- What a recorder shows, and what it answers next, is what its log says. -/
structure Follows (r : Recorder φ) (log : Log φ) : Prop where
  ids : InFirstOrder (log.functions.map (·.1)) r.functionIds
  handler_ok_iff : ∀ id f, r.handler id = .ok f ↔ latest id log.functions = some f
  handler_error_iff : ∀ id error, r.handler id = .error error ↔
    latest id log.functions = none ∧ error = .configuration (.unknownFunction id)
  triggers : r.triggers = log.triggers
  calls : r.calls = log.calls
  replies : ∀ a, (r.perform a).1 = log.replyTo a
  /-- A refused registration, and a call that fails, registers nothing. -/
  refused : ∀ a error, (r.perform a).1 = .error error →
    (r.perform a).2.functions = r.functions ∧ (r.perform a).2.triggers = r.triggers

theorem handler_ofLog (log : Log φ) (id : String) :
    (ofLog log).handler id =
      match latest id log.functions with
      | some f => .ok f
      | none => .error (.configuration (.unknownFunction id)) := by
  have hfunction : (ofLog log).function? id = latest id log.functions := by
    rw [function?, ofLog, lookup_putAll, List.lookup_nil, Option.or_none]
  rw [handler, hfunction]

/-- An action that fails registers nothing, whatever the recorder. -/
theorem perform_of_error {r : Recorder φ} {a : Action φ} {error : StepError}
    (h : (r.perform a).1 = .error error) :
    (r.perform a).2.functions = r.functions ∧ (r.perform a).2.triggers = r.triggers := by
  have houtcome (change : Except StepError (Recorder φ))
      (hchange : (r.outcome change).1 = .error error) : (r.outcome change).2 = r := by
    cases change with
    | ok next => cases hchange
    | error _ => rfl
  cases a with
  | registerFunction id f =>
    rw [perform, houtcome _ h]
    exact ⟨rfl, rfl⟩
  | registerTrigger t =>
    rw [perform, houtcome _ h]
    exact ⟨rfl, rfl⟩
  | call c => exact ⟨rfl, rfl⟩
  | respondWith _ _ | failWith _ _ | rejectRegistration _ _ => cases h

theorem follows_ofLog (log : Log φ) : (ofLog log).Follows log where
  ids := by
    have hempty : InFirstOrder [] (([] : List (String × φ)).map (·.1)) :=
      ⟨.nil, fun _ => .rfl, .nil⟩
    exact inFirstOrder_putAll hempty log.functions
  handler_ok_iff id f := by
    rw [handler_ofLog]
    cases latest id log.functions with
    | none => exact ⟨nofun, nofun⟩
    | some g => exact ⟨fun h => congrArg some (Except.ok.inj h), fun h => by rw [Option.some.inj h]⟩
  handler_error_iff id error := by
    rw [handler_ofLog]
    cases latest id log.functions with
    | none => exact ⟨fun h => ⟨rfl, (Except.error.inj h).symm⟩, fun h => by rw [h.2]⟩
    | some g => exact ⟨nofun, fun h => nomatch h.1⟩
  triggers := rfl
  calls := rfl
  replies a := by rw [perform_ofLog]
  refused _ _ := perform_of_error

end Recorder

/-- The transport runs the function that its recorder holds under an id. -/
theorem Site.invoke_eq (site : Site) (readFile : String → Option (Except FileFault String))
    (identifiers : Nat → BitVec 128) (id : String) (invocation : Invocation) :
    site.invoke readFile identifiers id invocation =
      ((Run.ofExcept (site.transport.handler id)).bind fun f => f.invoke invocation)
        (site.surroundings readFile identifiers) none (.start site.transport) := by
  rw [Site.invoke, Recorder.handler]
  cases site.transport.function? id <;> rfl

/-- After all actions a recorder shows what its log says: each id once, in the order of the first
registration, the function of the last one, the triggers and the calls in order, and for each
further action the answer that was last set for it. The transport of an engine runs the function
that it shows, and fails by itself only when there is none. -/
theorem recorders_follow_logs :
    (∀ (φ : Type) (actions : List (Recorder.Action φ)),
      let (log, r) := (Recorder.empty : Recorder φ).performAll actions
      log.map Recorder.Entry.action = actions ∧ r.Follows log) ∧
    ∀ (site : Site) (readFile : String → Option (Except FileFault String))
      (identifiers : Nat → BitVec 128) (id : String) (invocation : Invocation),
      site.invoke readFile identifiers id invocation =
        ((Run.ofExcept (site.transport.handler id)).bind fun f => f.invoke invocation)
          (site.surroundings readFile identifiers) none (.start site.transport) := by
  refine ⟨fun φ actions => ⟨Recorder.map_action_performAll _ _, ?_⟩, Site.invoke_eq⟩
  have hlog := Recorder.performAll_ofLog ([] : Recorder.Log φ) actions
  rw [Recorder.ofLog_nil, List.nil_append] at hlog
  rw [hlog]
  exact Recorder.follows_ofLog _

end StepEngine
