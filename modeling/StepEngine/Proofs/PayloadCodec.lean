import StepEngine.Engine.Setup
import StepEngine.Proofs.Members
import StepEngine.Proofs.Spans

/-!
# Payloads and their values

What is delivered to a step, what it answers and what it publishes is written as a value and read
again. A value that may be absent is the one point where the two can differ: a `null` is read as
nothing there.

* `Decode.dict_encodeDict`, `Field.Given.dict` : a dictionary is read as it was;
* `Field.Given.optional_any` : of a value that may be absent, what is no `null` is read;
* `ApiRequest.decode_encode`, `StreamChange.decode_encode`, `EnqueueEvent.decode_encode`,
  `TriggerInfo.decode_encode` : what has no such value is read as it was;
* `ApiResponse.decode_encode`, `StateChange.decode_encode` : what has one is read in its settled
  form;
* `FlowContext.transport_enqueue` : publishing a message is one call of the transport;
* `payloads_are_restored` : all that is read as it was, and what is published.
-/

namespace StepEngine

variable {α τ : Type}

/-! ## Texts, numbers and dictionaries -/

theorem Decode.text_string (s : String) : Decode.text (.string s) = .ok s := rfl

theorem Decode.word16_ofNat (n : UInt16) : Decode.word16 (.ofNat n.toNat) = .ok n := by
  rw [Decode.word16, Decode.natural_of_lt "u16" 16 n.toNat_lt]
  exact congrArg Except.ok UInt16.ofNat_toNat

theorem Decode.index_ofNat (n : UInt64) : Decode.index (.ofNat n.toNat) = .ok n := by
  rw [Decode.index, Decode.natural_of_lt "usize" 64 n.toNat_lt]
  exact congrArg Except.ok UInt64.ofNat_toNat

theorem Decode.int64_toInt (n : Int64) : Decode.int64 (.number (.int n.toInt)) = .ok n := by
  have hlow := n.le_toInt
  have hhigh := n.toInt_lt
  have hpow : Int.pow 2 63 = 9223372036854775808 := by decide
  have hread : Decode.integer "i64" (-Int.pow 2 63) (Int.pow 2 63 - 1) (.number (.int n.toInt)) =
      .ok n.toInt :=
    Decode.integer_of_range "i64" (by omega) (by omega)
  rw [Decode.int64, hread]
  exact congrArg Except.ok (Int64.ofInt_toInt n)

theorem Decode.dict_encodeDict {decode : Decoder α} {encode : α → Json}
    (h : ∀ a, decode (encode a) = .ok a) (d : Dict α) :
    Decode.dict decode (ApiRequest.encodeDict encode d) = .ok d := by
  change (Decode.members decode (d.entries.map fun e => (e.1, encode e.2))).map SortedMap.ofList = _
  rw [Decode.members_map h, List.map_id' d.entries]
  exact congrArg Except.ok (SortedMap.ofList_entries d)

/-! ## Values that may be absent -/

theorem Decode.optional_any (v : Json) : Decode.optional Decode.any v = .ok v.nonNull? := by
  cases v <;> rfl

namespace Field.Given

variable {name : String} {aliases : List String} {members : List (String × Json)} (key : String)

/-- A value that is there, or `null` in its place. -/
theorem nullable {v : Json}
    (hunder : Json.under (Field.optional name Decode.any aliases).isNamed members = [(key, v)]) :
    (Field.optional name Decode.any aliases).Given members v.nonNull? :=
  .member key hunder (Decode.optional_any v)

/-- A value that is left out when it is absent. -/
theorem optional_any {o : Option Json}
    (hunder : Json.under (Field.optional name Decode.any aliases).isNamed members =
      (o.map fun v => (key, v)).toList) :
    (Field.optional name Decode.any aliases).Given members (o.bind Json.nonNull?) := by
  cases o with
  | none => exact .missing hunder rfl
  | some v => exact .nullable key hunder

/-- A dictionary that is left out when it is empty. -/
theorem dict {decode : Decoder α} {encode : α → Json} {d : Dict α}
    (hunder : Json.under
      (Field.defaulted name (Decode.dict decode) .empty aliases).isNamed members =
        if d.isEmpty then [] else [(key, ApiRequest.encodeDict encode d)])
    (hcodec : ∀ a, decode (encode a) = .ok a) :
    (Field.defaulted name (Decode.dict decode) .empty aliases).Given members d :=
  .defaulted_unless key hunder (fun hempty => SortedMap.ext (List.isEmpty_iff.1 hempty).symm)
    (Decode.dict_encodeDict hcodec d)

end Field.Given

/-! ## Requests and responses -/

theorem ParamValue.decode_encode (p : ParamValue) : decode p.encode = .ok p := by
  cases p with
  | one s => rfl
  | many texts =>
    have hlist : Decode.list Decode.text (.ofStrings texts) = .ok (texts.map id) :=
      Decode.list_map fun _ _ => rfl
    rw [List.map_id] at hlist
    simp only [encode, decode, hlist]
    rfl

theorem ApiRequest.decode_encode (r : ApiRequest) : decode r.encode = .ok r := by
  have hgiven : record.fields.Given
      [("body", r.body), ("headers", encodeDict ParamValue.encode r.headers),
        ("method", .string r.method), ("path", .string r.path),
        ("path_params", encodeDict .string r.pathParams),
        ("query_params", encodeDict ParamValue.encode r.queryParams)]
      (r.method, r.path, r.pathParams, r.queryParams, r.body, r.headers, ()) :=
    ⟨.defaulted "method" (by simp) (Decode.text_string r.method),
      .defaulted "path" (by simp) (Decode.text_string r.path),
      .defaulted "path_params" (by simp) (Decode.dict_encodeDict Decode.text_string r.pathParams),
      .defaulted "query_params" (by simp)
        (Decode.dict_encodeDict ParamValue.decode_encode r.queryParams),
      .defaulted "body" (by simp) rfl,
      .defaulted "headers" (by simp) (Decode.dict_encodeDict ParamValue.decode_encode r.headers),
      trivial⟩
  exact Record.bind_of_given rfl (by decide) hgiven .direct _

/-- The response without a body that is `null`. -/
def ApiResponse.settled (r : ApiResponse) : ApiResponse :=
  { r with body := r.body.bind Json.nonNull? }

theorem ApiResponse.decode_encode (r : ApiResponse) : decode r.encode = .ok r.settled := by
  have hgiven : record.fields.Given
      ((r.body.map fun b => ("body", b)).toList ++
        (if r.headers.isEmpty then [] else
          [("headers", ApiRequest.encodeDict .string r.headers)]) ++
        [("status_code", .ofNat r.status.toNat)])
      (r.status, r.headers, r.body.bind Json.nonNull?, ()) :=
    ⟨.required "status_code" (by simp) (Decode.word16_ofNat r.status),
      .dict "headers" (by simp) Decode.text_string,
      .optional_any "body" (by simp), trivial⟩
  exact Record.bind_of_given rfl (by decide) hgiven .direct _

/-! ## Changes and messages -/

/-- The change without values that are `null`. -/
def StateChange.settled (c : StateChange) : StateChange :=
  { c with oldValue := c.oldValue.bind Json.nonNull?, newValue := c.newValue.bind Json.nonNull? }

theorem StateChange.decode_encode (c : StateChange) : decode c.encode = .ok c.settled := by
  have hnull (o : Option Json) : (o.getD .null).nonNull? = o.bind Json.nonNull? := by
    cases o <;> rfl
  have hgiven : record.fields.Given
      [("group_id", .string c.groupId), ("item_id", .string c.itemId),
        ("new_value", c.newValue.getD .null), ("old_value", c.oldValue.getD .null)]
      (c.groupId, c.itemId, (c.oldValue.getD .null).nonNull?, (c.newValue.getD .null).nonNull?,
        ()) :=
    ⟨.text "group_id" (by simp), .text "item_id" (by simp), .nullable "old_value" (by simp),
      .nullable "new_value" (by simp), trivial⟩
  refine (Record.bind_of_given rfl (by decide) hgiven .direct _).trans ?_
  rw [hnull, hnull]
  rfl

theorem StreamAction.decode_encode (a : StreamAction) : decode a.encode = .ok a := by
  cases a <;> rfl

theorem StreamEvent.decode_encode (e : StreamEvent) : decode e.encode = .ok e := by
  have hgiven : record.fields.Given [("data", e.data), ("type", e.action.encode)]
      (e.action, e.data, ()) :=
    ⟨.required "type" (by simp) (StreamAction.decode_encode e.action),
      .defaulted "data" (by simp) rfl, trivial⟩
  exact Record.bind_of_given rfl (by decide) hgiven .direct _

theorem StreamChange.decode_encode (c : StreamChange) : decode c.encode = .ok c := by
  have hgiven : record.fields.Given
      ([("event", c.event.encode), ("group_id", .string c.groupId), ("item_id", .string c.itemId),
        ("stream_name", .string c.streamName)] ++
        (c.timestamp.map fun t => ("timestamp", Json.number (.int t.toInt))).toList)
      (c.streamName, c.groupId, c.itemId, c.event, c.timestamp, ()) :=
    ⟨.text "stream_name" (by simp), .text "group_id" (by simp), .text "item_id" (by simp),
      .required "event" (by simp) (StreamEvent.decode_encode c.event),
      .optional_same "timestamp" (by simp) Decode.int64_toInt nofun, trivial⟩
  exact Record.bind_of_given rfl (by decide) hgiven .direct _

theorem EnqueueEvent.decode_encode (e : EnqueueEvent) : decode e.encode = .ok e := by
  have hgiven : record.fields.Given
      ([("data", e.data)] ++ TriggerInfo.textMember "message_group_id" e.messageGroupId ++
        [("topic", .string e.topic)])
      (e.topic, e.data, e.messageGroupId, ()) :=
    ⟨.text "topic" (by simp), .defaulted "data" (by simp) rfl,
      .optional_text "message_group_id" (by simp), trivial⟩
  exact Record.bind_of_given rfl (by decide) hgiven .direct _

theorem TriggerKind.decode_encode (origin : Origin) (k : TriggerKind) :
    decode origin k.encode = .ok k := by
  cases k <;> rfl

theorem TriggerInfo.decode_encode (i : TriggerInfo) : decode i.encode = .ok i := by
  have hgiven : record.fields.Given
      (textMember "expression" i.expression ++ textMember "group_id" i.groupId ++
        (i.index.map fun n => ("index", Json.ofNat n.toNat)).toList ++
        textMember "item_id" i.itemId ++ textMember "method" i.method ++
        textMember "path" i.path ++ textMember "stream_name" i.streamName ++
        textMember "topic" i.topic ++ [("type", i.kind.encode)])
      (i.kind, i.index, i.path, i.method, i.topic, i.expression, i.streamName, i.groupId, i.itemId,
        ()) :=
    ⟨.required "type" (by simp) (TriggerKind.decode_encode .direct i.kind),
      .optional_same "index" (by simp) Decode.index_ofNat nofun,
      .optional_text "path" (by simp), .optional_text "method" (by simp),
      .optional_text "topic" (by simp), .optional_text "expression" (by simp),
      .optional_text "stream_name" (by simp), .optional_text "group_id" (by simp),
      .optional_text "item_id" (by simp), trivial⟩
  exact Record.bind_of_given rfl (by decide) hgiven .direct _

/-! ## Messages that are published -/

namespace Interceptor

/-- An interceptor that leaves the operation and the payload of a call as they are. -/
structure LeavesPayloads (i : Interceptor) : Prop where
  operation : ∀ call, (i.outbound call).operation = call.operation
  payload : ∀ call, (i.outbound call).payload = call.payload

theorem leavesPayloads_propagator : propagator.LeavesPayloads where
  operation call := by
    simp only [propagator]
    split <;> rfl
  payload call := by
    simp only [propagator]
    split <;> rfl

variable {interceptors : List Interceptor} (h : ∀ i ∈ interceptors, i.LeavesPayloads)

include h

theorem operation_outboundAll (call : OutboundCall) :
    (outboundAll interceptors call).operation = call.operation := by
  induction interceptors generalizing call with
  | nil => rfl
  | cons i interceptors ih =>
    have hrest := ih (fun j hj => h j (List.mem_cons_of_mem _ hj)) (i.outbound call)
    exact hrest.trans ((h i List.mem_cons_self).operation call)

theorem payload_outboundAll (call : OutboundCall) :
    (outboundAll interceptors call).payload = call.payload := by
  induction interceptors generalizing call with
  | nil => rfl
  | cons i interceptors ih =>
    have hrest := ih (fun j hj => h j (List.mem_cons_of_mem _ hj)) (i.outbound call)
    exact hrest.trans ((h i List.mem_cons_self).payload call)

end Interceptor

/-- The transport is asked once, whatever comes of its answer. -/
theorem FlowContext.transport_enqueue {ctx : FlowContext} {parent : TraceContext}
    (h : ctx.parent = some parent) (event : EnqueueEvent) (s : Surroundings τ)
    (within : Option Span) (p : Progress τ) :
    ∃ trace, ((ctx.enqueue event).run s within p).2.transport =
      (s.answer p.transport (Interceptor.outboundAll s.engine.interceptors
        (.new "enqueue" event.encode (some trace)))).2 := by
  let operation : Operation :=
    ⟨"enqueue", event.encode, [("kikkake.queue.topic", event.topic)], parent⟩
  have hrun : (ctx.enqueue event).run (τ := τ) = (Run.call operation).attempt.bind fun answer =>
      ((Activity.ofExcept answer).bind fun _ => .done ()).run := by
    rw [enqueue, h]
    rfl
  refine ⟨Run.traceAt s p (some parent), ?_⟩
  have hcall := Run.call_apply operation s within p rfl
  rw [hrun]
  simp only [Run.bind, Run.attempt, hcall]
  rcases (Exchange.ofCall operation s p).outcome with _ | _ | _ <;> rfl

/-- What publishing a message leaves in a transport that records: one more call and nothing else. -/
structure EnqueueEvent.Published {φ : Type} (event : EnqueueEvent) (interceptors : List Interceptor)
    (before after : Recorder φ) : Prop where
  /-- The call holds the message when the interceptors get it. -/
  recorded : ∃ call : OutboundCall, call.operation = "enqueue" ∧
    EnqueueEvent.decode call.payload = .ok event ∧
    after = { before with calls := before.calls ++ [Interceptor.outboundAll interceptors call] }
  /-- It still does when it is recorded, unless one of them changes what is called. -/
  restored : (∀ i ∈ interceptors, i.LeavesPayloads) → ∃ call : OutboundCall,
    after.calls = before.calls ++ [call] ∧ call.operation = "enqueue" ∧
    EnqueueEvent.decode call.payload = .ok event

theorem FlowContext.published_enqueue {ctx : FlowContext} {parent : TraceContext}
    (h : ctx.parent = some parent) (event : EnqueueEvent) (site : Site)
    (readFile : String → Option (Except FileFault String)) (identifiers : Nat → BitVec 128)
    (within : Option Span) (p : Progress (Recorder EngineFunction)) :
    event.Published site.engine.interceptors p.transport
      ((ctx.enqueue event).run (site.surroundings readFile identifiers) within p).2.transport := by
  obtain ⟨trace, htransport⟩ :=
    ctx.transport_enqueue h event (site.surroundings readFile identifiers) within p
  let call := OutboundCall.new "enqueue" event.encode (some trace)
  rw [htransport]
  refine ⟨⟨call, rfl, event.decode_encode, rfl⟩, fun hleaves => ⟨_, rfl, ?_, ?_⟩⟩
  · exact Interceptor.operation_outboundAll hleaves call
  · exact (congrArg EnqueueEvent.decode (Interceptor.payload_outboundAll hleaves call)).trans
      event.decode_encode

/-- Requests, changes of streams, messages and infos about triggers are read as they were written,
and a message that a handler publishes can be read from the one call that is recorded of it. -/
theorem payloads_are_restored :
    (∀ r : ApiRequest, ApiRequest.decode r.encode = .ok r) ∧
    (∀ c : StreamChange, StreamChange.decode c.encode = .ok c) ∧
    (∀ e : EnqueueEvent, EnqueueEvent.decode e.encode = .ok e) ∧
    (∀ i : TriggerInfo, TriggerInfo.decode i.encode = .ok i) ∧
    ∀ (event : EnqueueEvent) (step : String) (trigger : TriggerInfo) (trace : TraceContext)
      (streams : List String) (input : TriggerInput) (site : Site)
      (readFile : String → Option (Except FileFault String)) (identifiers : Nat → BitVec 128)
      (within : Option Span) (p : Progress (Recorder EngineFunction)),
      event.Published site.engine.interceptors p.transport
        (((FlowContext.attached step trigger trace streams input).enqueue event).run
          (site.surroundings readFile identifiers) within p).2.transport :=
  ⟨ApiRequest.decode_encode, StreamChange.decode_encode, EnqueueEvent.decode_encode,
    TriggerInfo.decode_encode, fun event _ _ _ _ _ site readFile identifiers within p =>
      FlowContext.published_enqueue rfl event site readFile identifiers within p⟩

/-- An engine without interceptors of its own records an order with its group. -/
theorem payloads_are_restored_order :
    let site : Site := ⟨.new .standard [] [], .empty, []⟩
    let order : EnqueueEvent := ⟨"orders.accepted", .null, some "acme"⟩
    let trace : TraceContext := .root (.random 1) (.random 2)
    let ctx := FlowContext.attached "Accept" (.new .queue) trace [] (.queue .null)
    ∃ call : OutboundCall,
      ((ctx.enqueue order).run (site.surroundings (fun _ => none) fun _ => 0) none
        (.start site.transport)).2.transport.calls = [call] ∧
      call.operation = "enqueue" ∧ EnqueueEvent.decode call.payload = .ok order := by
  intro site order trace ctx
  have hpublished := payloads_are_restored.2.2.2.2 order "Accept" (.new .queue) trace []
    (.queue .null) site (fun _ => none) (fun _ => 0) none (.start site.transport)
  have hleaves : ∀ i ∈ site.engine.interceptors, i.LeavesPayloads :=
    List.forall_mem_singleton.2 Interceptor.leavesPayloads_propagator
  exact hpublished.restored hleaves

end StepEngine
