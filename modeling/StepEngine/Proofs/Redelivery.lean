import StepEngine.Proofs.Gating
import StepEngine.Proofs.PayloadCodec

/-!
# The data of an input, delivered again

A step can hand the data of its input on, and another step with a trigger of the same kind is then
delivered this data. It sees the same input, in whatever spelling the first payload came.

* `Fields.Answered` : each value is an answer of the decoder of its field, or the default;
* `Record.answered_of_decode` : so are the values of a record, from an object and from a list;
* `StateChange.settled_of_decode` : hence no value of a change that was read is `null`;
* `TriggerInput.decode_data` : the data of an input is read as the input;
* `TriggerInput.data_is_redelivered` : and a step does with it what it does with the payload.
-/

namespace StepEngine

variable {types : List Type}

/-! ## Where the values of a record come from -/

namespace Fields

/-- Each value is an answer of the decoder of its field, or the default of the field. -/
def Answered : {types : List Type} → Fields types → Values types → Prop
  | _, nil, () => True
  | _, cons field rest, (a, values) =>
    ((∃ v, field.decode v = .ok a) ∨ field.default? = some a) ∧ rest.Answered values

theorem Given.answered {fields : Fields types} {members : List (String × Json)}
    {values : Values types} (h : fields.Given members values) : fields.Answered values := by
  induction fields with
  | nil => trivial
  | cons field rest ih =>
    obtain ⟨a, values⟩ := values
    obtain ⟨hfield, hrest⟩ := h
    refine ⟨?_, ih hrest⟩
    cases hfield with
    | member _ _ hdecode => exact .inl ⟨_, hdecode⟩
    | missing _ hdefault => exact .inr hdefault

theorem answered_of_ofItems {fields : Fields types} {description : String} {total position : Nat}
    {items left : List Json} {values : Values types}
    (h : fields.ofItems description total position items = .ok (values, left)) :
    fields.Answered values := by
  induction fields generalizing position items with
  | nil => trivial
  | cons field rest ih =>
    obtain ⟨a, values⟩ := values
    cases items with
    | cons v items =>
      obtain ⟨hdecode, hrest⟩ := ofItems_cons_eq_ok_iff.1 h
      exact ⟨.inl ⟨v, hdecode⟩, ih hrest⟩
    | nil =>
      rw [ofItems] at h
      cases hdefault : field.default? with
      | none =>
        rw [hdefault] at h
        cases h
      | some b =>
        rw [hdefault] at h
        obtain ⟨⟨others, rest'⟩, hrest, h⟩ := Decode.bind_eq_ok_iff.1 h
        cases h
        exact ⟨.inr hdefault, ih hrest⟩

end Fields

theorem Record.answered_of_decode {r : Record types} (hopen : r.closed = false)
    (hapart : r.fields.apart = true) {origin : Origin} {v : Json} {values : Values types}
    (h : r.decode origin v = .ok values) : r.fields.Answered values := by
  cases v with
  | object members =>
    rw [Record.decode, hopen] at h
    exact ((Fields.ofMembers_eq_ok_iff hapart).1 h).answered
  | array items => exact Fields.answered_of_ofItems (Record.decode_array_eq_ok_iff.1 h)
  | null | bool _ | number _ | string _ => cases h

/-! ## Changes that were read -/

theorem Field.bind_nonNull?_of_answered {name : String} {aliases : List String} {o : Option Json}
    (h : (∃ v, (Field.optional name Decode.any aliases).decode v = .ok o) ∨
      (Field.optional name Decode.any aliases).default? = some o) : o.bind Json.nonNull? = o := by
  rcases h with ⟨v, hv⟩ | hdefault
  · obtain rfl := Except.ok.inj ((Decode.optional_any v).symm.trans hv)
    cases v <;> rfl
  · obtain rfl := Option.some.inj hdefault
    rfl

theorem StateChange.settled_of_decode {v : Json} {c : StateChange} (h : decode v = .ok c) :
    c.settled = c := by
  obtain ⟨⟨groupId, itemId, oldValue, newValue, _⟩, hvalues, h⟩ := Decode.bind_eq_ok_iff.1 h
  obtain ⟨-, -, hold, hnew, -⟩ := Record.answered_of_decode rfl (by decide) hvalues
  cases h
  simp only [settled, Field.bind_nonNull?_of_answered hold, Field.bind_nonNull?_of_answered hnew]

/-! ## Inputs -/

namespace TriggerInput

variable {kind : TriggerKind} {payload : Json} {input : TriggerInput}

/-- Off routes the data of an input is read as the input. -/
theorem decode_data (hkind : kind ≠ .http) (h : decode kind payload = .ok input) :
    decode kind input.data = .ok input := by
  cases kind with
  | http => exact absurd rfl hkind
  | queue | cron =>
    cases h
    rfl
  | state =>
    cases hread : StateChange.decode payload with
    | error cause =>
      rw [decode, hread] at h
      cases h
    | ok c =>
      rw [decode, hread] at h
      cases h
      rw [data, decode, c.decode_encode, StateChange.settled_of_decode hread]
      rfl
  | stream =>
    cases hread : StreamChange.decode payload with
    | error cause =>
      rw [decode, hread] at h
      cases h
    | ok c =>
      rw [decode, hread] at h
      cases h
      rw [data, decode, c.decode_encode]
      rfl

/-- The data of an input is read as the input, so every step with a trigger of the kind does with it
what it does with the payload that the input came from; so does its condition. -/
theorem data_is_redelivered (hkind : kind ≠ .http) (h : decode kind payload = .ok input) :
    input.kind = kind ∧ decode kind input.data = .ok input ∧
    ∀ (τ : Type) (invocation : Invocation),
      (∀ w : TriggerHandler, w.trigger.kind = kind →
        (w.invoke { invocation with payload := input.data } : Run τ Json) =
          w.invoke { invocation with payload := payload }) ∧
      ∀ g : TriggerGate, g.trigger.kind = kind →
        (g.evaluate { invocation with payload := input.data } : Run τ Json) =
          g.evaluate { invocation with payload := payload } := by
  have hagain := decode_data hkind h
  refine ⟨kind_of_decode h, hagain, fun τ invocation => ⟨fun w hw => ?_, fun g hg => ?_⟩⟩
  · have hrun (trace : TraceContext) :
        (w.run { invocation with payload := input.data } trace : Run τ Json) =
          w.run { invocation with payload := payload } trace := by
      simp only [TriggerHandler.run, hw, hagain, h]
    simp only [TriggerHandler.invoke, hrun]
  · have hview (v : Json) : TriggerGate.inputView g.trigger.kind v = decode kind v := by
      rw [hg, TriggerHandler.inputView_of_ne_http hkind]
    simp only [TriggerGate.evaluate, hview, hagain, h]

/-- A todo in another spelling, with a member that no field knows and without a time. -/
def updatedTodo : Json := .object [
  ("event", .object [("data", .object [("done", .bool true)]), ("type", .string "update")]),
  ("groupId", .string "inbox"), ("id", .string "t-1"), ("source", .string "app"),
  ("streamName", .string "todos"), ("timestamp", .null)]

/-- This todo, and a change that came as a list with a `null` for its old value. -/
theorem data_is_redelivered_todo :
    let c : StreamChange :=
      ⟨"todos", "inbox", "t-1", ⟨.update, .object [("done", .bool true)]⟩, none⟩
    let listed : Json := .array [.string "orders", .string "7", .null, .ofNat 3]
    let d : StateChange := ⟨"orders", "7", none, some (.ofNat 3)⟩
    (decode .stream updatedTodo = .ok (.stream c) ∧ c.encode ≠ updatedTodo ∧
      decode .stream c.encode = .ok (.stream c)) ∧
    decode .state listed = .ok (.state d) ∧ d.encode ≠ listed ∧
      decode .state d.encode = .ok (.state d) := by
  intro c listed d
  have hstream : decode .stream updatedTodo = .ok (.stream c) := rfl
  have hstate : decode .state listed = .ok (.state d) := rfl
  exact ⟨⟨hstream, by decide, (data_is_redelivered (by decide) hstream).2.1⟩,
    hstate, by decide, (data_is_redelivered (by decide) hstate).2.1⟩

end TriggerInput

end StepEngine
