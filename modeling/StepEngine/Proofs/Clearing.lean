import StepEngine.Proofs.Members
import StepEngine.Proofs.Spans

/-!
# Clearing a scope

A scope is cleared by one call that lists its items, and one call for each item with an id, in the
order of the list, until one of them fails.

* `Outcome.SameFailure` : two outcomes without a result, for the same reason;
* `Activity.perform_apply` : a call of an activity is one exchange;
* `CarriedOut` : operations that are called in order up to the first that fails, and how that ends.
  It is built from its first call on: `CarriedOut.cons`, `CarriedOut.fails`;
* `StateStore.deleteAll_apply` : keys are deleted so;
* `StateStore.itemId?_eq_some_iff` : when an item has an id;
* `StateStore.Clears` : what follows the listing of a scope, by its answer;
  `StateStore.clear_follows_list` : what clearing a scope does.
-/

namespace StepEngine

variable {τ α β : Type}

/-! ## Failures -/

/-- Two outcomes without a result, for the same reason. -/
inductive Outcome.SameFailure : Outcome α → Outcome β → Prop
  | error (error : StepError) : SameFailure (some (.error error)) (some (.error error))
  | dropped : SameFailure none none

/-! ## One call -/

def Exchange.Succeeds (e : Exchange τ) : Prop := ∃ v, e.outcome = some (.ok v)

/-- Calls that begin with the one that a run makes now. -/
theorem Exchange.Chain.ofCall {operation : Operation} {s : Surroundings τ} {p : Progress τ}
    {exchanges : List (Exchange τ)} {last : τ}
    (rest : Chain s (Exchange.ofCall operation s p).after exchanges last) :
    Chain s p.transport (Exchange.ofCall operation s p :: exchanges) last := by
  have hanswered : (Exchange.ofCall operation s p).Answered s :=
    Exchange.answered_ofCall operation s p
  exact .cons hanswered rest

/-- A call of an activity is one exchange. What follows goes on with the value that it is answered
with, and fails as it does when there is none. -/
theorem Activity.perform_bind_apply (operation : Operation) (next : Json → Run τ β)
    (s : Surroundings τ) (within : Option Span) (p : Progress τ) :
    ∃ q : Progress τ, q.transport = (Exchange.ofCall operation s p).after ∧
      ((∃ v, (Exchange.ofCall operation s p).outcome = some (.ok v) ∧
          (perform operation).run.bind next s within p = next v s within q) ∨
        ∃ failed, Outcome.SameFailure (Exchange.ofCall operation s p).outcome failed ∧
          (perform operation).run.bind next s within p = (failed, q)) := by
  have hperform : (perform operation).run.bind next s within p =
      ((Run.call operation).attempt.bind fun answer =>
        (ofExcept answer).run.bind next) s within p := by
    rw [← Run.bind_assoc]
    rfl
  have hcall := Run.call_apply operation s within p rfl
  rw [hperform, Run.bind, Run.attempt, hcall]
  generalize Exchange.ofCall operation s p = e
  refine ⟨{ p with
    transport := e.after
    drawn := p.drawn + 1
    spans := p.spans + 1
    events := p.events ++ e.events within }, rfl, ?_⟩
  rcases e.outcome with _ | error | v
  · exact .inr ⟨none, .dropped, rfl⟩
  · exact .inr ⟨some (.error error), .error error, rfl⟩
  · exact .inl ⟨v, rfl, rfl⟩

/-! ## Calls up to the first that fails -/

/-- Operations are called in order: all of them with success, or up to the first that fails. -/
inductive CarriedOut (operations : List Operation) : List (Exchange τ) → Outcome Unit → Prop
  | all {made : List (Exchange τ)} (hmade : made.map Exchange.operation = operations)
      (hsucceed : ∀ e ∈ made, e.Succeeds) : CarriedOut operations made (some (.ok ()))
  | stopped {before : List (Exchange τ)} {last : Exchange τ} {rest : List Operation}
      {outcome : Outcome Unit}
      (hmade : before.map Exchange.operation ++ last.operation :: rest = operations)
      (hsucceed : ∀ e ∈ before, e.Succeeds) (hfails : Outcome.SameFailure last.outcome outcome) :
      CarriedOut operations (before ++ [last]) outcome

namespace CarriedOut

variable {operations : List Operation} {e : Exchange τ} {made : List (Exchange τ)}
  {outcome : Outcome Unit}

theorem nil : CarriedOut (τ := τ) [] [] (some (.ok ())) :=
  .all rfl (List.forall_mem_nil _)

theorem fails (hfails : Outcome.SameFailure e.outcome outcome) (rest : List Operation) :
    CarriedOut (e.operation :: rest) [e] outcome := by
  show CarriedOut (e.operation :: rest) ([] ++ [e]) outcome
  exact .stopped rfl (List.forall_mem_nil _) hfails

theorem cons (he : e.Succeeds) (h : CarriedOut operations made outcome) :
    CarriedOut (e.operation :: operations) (e :: made) outcome := by
  cases h with
  | all hmade hsucceed =>
    exact .all (congrArg (e.operation :: ·) hmade) (List.forall_mem_cons.2 ⟨he, hsucceed⟩)
  | @stopped before last rest outcome hmade hsucceed hfails =>
    have hmade' : (e :: before).map Exchange.operation ++ last.operation :: rest =
        e.operation :: operations := congrArg (e.operation :: ·) hmade
    exact .stopped hmade' (List.forall_mem_cons.2 ⟨he, hsucceed⟩) hfails

end CarriedOut

namespace StateStore

/-! ## Deleting keys -/

def deleteOperation (parent : TraceContext) (scope key : String) : Operation where
  name := "state::delete"
  payload := .ofMembers [("scope", .string scope), ("key", .string key)]
  attributes := [scopeAttribute scope, keyAttribute key]
  parent := parent

def listOperation (parent : TraceContext) (scope : String) : Operation where
  name := "state::list"
  payload := .ofMembers [("scope", .string scope)]
  attributes := [scopeAttribute scope]
  parent := parent

variable (parent : TraceContext) (scope : String) (s : Surroundings τ) (within : Option Span)

/-- Keys are deleted one after the other, each after the one before it succeeded. -/
theorem run_deleteAll_cons (key : String) (keys : List String) :
    ((⟨some parent⟩ : StateStore).deleteAll scope (key :: keys)).run (τ := τ) =
      (Activity.perform (deleteOperation parent scope key)).run.bind fun _ =>
        ((⟨some parent⟩ : StateStore).deleteAll scope keys).run := by
  rw [← Activity.run_bind, deleteAll, delete, Activity.bind_bind]
  rfl

theorem deleteAll_apply (keys : List String) (p : Progress τ) :
    ∃ outcome q deletes, ((⟨some parent⟩ : StateStore).deleteAll scope keys).run s within p =
        (outcome, q) ∧
      Exchange.Chain s p.transport deletes q.transport ∧
      CarriedOut (keys.map (deleteOperation parent scope)) deletes outcome := by
  induction keys generalizing p with
  | nil => exact ⟨_, p, [], rfl, .nil _, .nil⟩
  | cons key keys ih =>
    obtain ⟨q, hq, hdelete⟩ := Activity.perform_bind_apply (deleteOperation parent scope key)
      (fun _ => ((⟨some parent⟩ : StateStore).deleteAll scope keys).run) s within p
    rw [run_deleteAll_cons]
    -- the other keys are deleted in the state that this call leaves, unless it fails
    rcases hdelete with ⟨v, hv, hrun⟩ | ⟨failed, hfailed, hrun⟩
    · obtain ⟨outcome, last, deletes, hrest, hchain, hcarried⟩ := ih q
      rw [hq] at hchain
      exact ⟨outcome, last, _ :: deletes, hrun.trans hrest, .ofCall hchain, hcarried.cons ⟨v, hv⟩⟩
    · refine ⟨failed, q, [_], hrun, .ofCall ?_, .fails hfailed _⟩
      rw [hq]
      exact .nil _

/-! ## Clearing -/

/-- The items that the answer to a listing has: none for `null`, and no list for anything else that
is no array. -/
def listed? : Json → Option (List Json)
  | .null => some []
  | .array items => some items
  | _ => none

/-- An item has an id when it is an object with a text under that name. -/
theorem itemId?_eq_some_iff {item : Json} {id : String} :
    itemId? item = some id ↔
      ∃ members, item = .object members ∧ members.lookup "id" = some (.string id) := by
  rw [itemId?, Option.bind_eq_some_iff]
  constructor
  · rintro ⟨v, hmember, hv⟩
    cases item with
    | object members =>
      cases v with
      | string text =>
        obtain rfl := Option.some.inj hv
        exact ⟨members, rfl, hmember⟩
      | null | bool _ | number _ | array _ | object _ => cases hv
    | null | bool _ | number _ | string _ | array _ => cases hmember
  · rintro ⟨members, rfl, hmember⟩
    exact ⟨.string id, hmember, rfl⟩

/-- What follows the listing of a scope, and how clearing the scope ends. -/
inductive Clears (parent : TraceContext) (scope : String) (list : Exchange τ) :
    List (Exchange τ) → Outcome Unit → Prop
  /-- The listing fails, and nothing is deleted. -/
  | failed {outcome : Outcome Unit} (hlist : Outcome.SameFailure list.outcome outcome) :
      Clears parent scope list [] outcome
  /-- The answer is no list, and nothing is deleted. -/
  | notListed {v : Json} (hlist : list.outcome = some (.ok v)) (hv : listed? v = none) :
      Clears parent scope list [] (some (.error (.ofDecode (.invalidType v .sequence))))
  /-- The ids of the items are deleted in the order of the list. -/
  | listed {v : Json} {items : List Json} {deletes : List (Exchange τ)} {outcome : Outcome Unit}
      (hlist : list.outcome = some (.ok v)) (hv : listed? v = some items)
      (hdeletes : CarriedOut ((items.filterMap itemId?).map (deleteOperation parent scope)) deletes
        outcome) : Clears parent scope list deletes outcome

/-- Ids that occur again are kept, and items without a text for an id are passed over. -/
example :
    let named (id : Json) : Json := .object [("id", id)]
    [named (.string "a"), named .null, .string "a", named (.string "a")].filterMap itemId? =
      ["a", "a"] := by decide

theorem itemsOf_of_listed {v : Json} {items : List Json} (h : listed? v = some items) :
    itemsOf Decode.any v = .done items := by
  cases v with
  | null =>
    cases h
    rfl
  | array listed =>
    obtain rfl : listed = items := Option.some.inj h
    have hitems : Decode.list Decode.any (.array (listed.map id)) = .ok (listed.map id) :=
      Decode.list_map fun _ _ => rfl
    rw [List.map_id] at hitems
    show Activity.ofExcept (StepError.decoded (Decode.list Decode.any (.array listed))) = _
    rw [hitems]
    rfl
  | bool _ | number _ | string _ | object _ => cases h

theorem itemsOf_of_notListed {v : Json} (h : listed? v = none) :
    itemsOf Decode.any v = .fail (.ofDecode (.invalidType v .sequence)) := by
  cases v with
  | null | array _ => cases h
  | bool _ | number _ | string _ | object _ => rfl

theorem run_clear :
    ((⟨some parent⟩ : StateStore).clear scope).run (τ := τ) =
      (Activity.perform (listOperation parent scope)).run.bind fun v =>
        ((itemsOf Decode.any v).bind fun items =>
          (⟨some parent⟩ : StateStore).deleteAll scope (items.filterMap itemId?)).run := by
  rw [← Activity.run_bind, clear, list, Activity.bind_bind]
  rfl

/-- A scope is cleared by listing it and then deleting the ids of its items, in the order of the
list and up to the first failure. Nothing is deleted when the listing fails or its answer is no
list, and nothing is called without a transport. -/
theorem clear_follows_list (scope : String) (s : Surroundings τ) (within : Option Span)
    (p : Progress τ) :
    (∀ parent, ∃ outcome q deletes,
      ((⟨some parent⟩ : StateStore).clear scope).run s within p = (outcome, q) ∧
      Exchange.Chain s p.transport (.ofCall (listOperation parent scope) s p :: deletes)
        q.transport ∧
      Clears parent scope (.ofCall (listOperation parent scope) s p) deletes outcome) ∧
    ((⟨none⟩ : StateStore).clear scope).run s within p =
      (some (.error (.configuration (.unattached "state::list"))), p) := by
  refine ⟨fun parent => ?_, rfl⟩
  rw [run_clear]
  obtain ⟨q, hq, hlist⟩ := Activity.perform_bind_apply (listOperation parent scope)
    (fun v => ((itemsOf Decode.any v).bind fun items =>
      (⟨some parent⟩ : StateStore).deleteAll scope (items.filterMap itemId?)).run) s within p
  rcases hlist with ⟨v, hv, hrun⟩ | ⟨failed, hfailed, hrun⟩
  · cases hitems : listed? v with
    | none =>
      rw [itemsOf_of_notListed hitems] at hrun
      refine ⟨_, q, [], hrun, .ofCall ?_, .notListed hv hitems⟩
      rw [hq]
      exact .nil _
    | some items =>
      rw [itemsOf_of_listed hitems] at hrun
      obtain ⟨outcome, last, deletes, hdeletes, hchain, hcarried⟩ :=
        deleteAll_apply parent scope s within (items.filterMap itemId?) q
      rw [hq] at hchain
      exact ⟨outcome, last, deletes, hrun.trans hdeletes, .ofCall hchain,
        .listed hv hitems hcarried⟩
  · refine ⟨failed, q, [], hrun, .ofCall ?_, .failed hfailed⟩
    rw [hq]
    exact .nil _

end StateStore

end StepEngine
