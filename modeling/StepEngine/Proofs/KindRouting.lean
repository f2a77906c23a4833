import StepEngine.Proofs.Onion
import StepEngine.Proofs.Validity

/-!
# Handlers by kind

A step with a handler for each kind of trigger is given its handlers one after the other, and at the
end perhaps a set of them that goes over those. Which handler is chosen for a kind is told here from
the list of what was given. The trigger that fires is served by the handler of its kind, as if the step
had no other, or by an error that names the kinds which have one.

* `KindHandlers.registered` : the handler that a set has for a kind, with `registered_set`,
  `registered_orElse`, `registered_foldl_set`;
* `KindHandlers.Chosen` : the handlers that come out on top (`chosen_iff`);
* `KindHandlers.Serves` : what a kind is served by (`dispatch_of_serves`);
* `TriggerHandler.work_congr` : an invocation asks the handler of a step in its own context only;
* `KindHandlers.Routes` : what a definition does with each kind of trigger;
* `MultiTriggerBuilder.routes_by_kind` : all of it, however the handlers were given.
-/

namespace StepEngine

/-! ## The handler of a kind -/

def KindHandler.kind : KindHandler → TriggerKind
  | queue _ => .queue
  | http _ => .http
  | cron _ => .cron
  | state _ => .state
  | stream _ => .stream

/-- What a handler does. That of a schedule does not see the input. -/
def KindHandler.run : KindHandler → Handler
  | queue handler | http handler | state handler | stream handler => handler
  | cron handler => fun _ ctx => handler ctx

namespace KindHandlers

/-- The handler that is there for a kind. -/
def registered (h : KindHandlers) : TriggerKind → Option KindHandler
  | .queue => h.queue.map .queue
  | .http => h.http.map .http
  | .cron => h.cron.map .cron
  | .state => h.state.map .state
  | .stream => h.stream.map .stream

theorem registered_none (kind : TriggerKind) : KindHandlers.none.registered kind = .none := by
  cases kind <;> rfl

theorem registered_set (h : KindHandlers) (sub : KindHandler) (kind : TriggerKind) :
    (h.set sub).registered kind = if sub.kind = kind then some sub else h.registered kind := by
  cases sub <;> cases kind <;> rfl

theorem registered_orElse (h other : KindHandlers) (kind : TriggerKind) :
    (h.orElse other).registered kind = (h.registered kind).or (other.registered kind) := by
  cases kind <;> simp [registered, orElse, Option.map_or]

theorem kind_of_registered {h : KindHandlers} {kind : TriggerKind} {sub : KindHandler}
    (hsub : h.registered kind = some sub) : sub.kind = kind := by
  cases kind <;> obtain ⟨_, -, rfl⟩ := Option.map_eq_some_iff.1 hsub <;> rfl

theorem mem_available_iff {h : KindHandlers} {kind : TriggerKind} :
    kind ∈ h.available ↔ ∃ sub, h.registered kind = some sub := by
  have hall : kind ∈ TriggerKind.all := by cases kind <;> decide
  have hhas : h.has kind = (h.registered kind).isSome := by
    cases kind <;> exact Option.isSome_map.symm
  rw [available, List.mem_filter, hhas, Option.isSome_iff_exists, and_iff_right hall]

/-- A trigger is served by the handler that is there for its kind. -/
theorem dispatch_eq (h : KindHandlers) (input : TriggerInput) (ctx : FlowContext) :
    h.dispatch input ctx = ((h.registered ctx.trigger.kind).map fun sub => sub.run input ctx).getD
      (.fail (.noHandler ctx.trigger.kind h.available)) := by
  unfold dispatch
  cases ctx.trigger.kind <;> simp only [registered, Option.map_map] <;> rfl

/-! ## Handlers that are given one after the other -/

/-- Of those given for a kind the last one is there. -/
theorem registered_foldl_set (h : KindHandlers) (given : List KindHandler) (kind : TriggerKind) :
    (given.foldl set h).registered kind =
      (given.reverse.find? (·.kind = kind)).or (h.registered kind) := by
  induction given generalizing h with
  | nil => rfl
  | cons sub given ih =>
    rw [List.foldl_cons, ih, registered_set, List.reverse_cons, List.find?_append, Option.or_assoc,
      List.find?_singleton]
    by_cases hkind : sub.kind = kind <;> simp [hkind]

/-- The handlers that come out on top when some are given one after the other and a set goes over
them. -/
inductive Chosen (above : KindHandlers) (given : List KindHandler) : KindHandler → Prop where
  | above {sub : KindHandler} (there : above.registered sub.kind = some sub) : Chosen above given sub
  /-- The set has none for the kind, and none was given for it later. -/
  | last {before after : List KindHandler} {sub : KindHandler}
    (free : above.registered sub.kind = .none) (split : given = before ++ sub :: after)
    (none_after : ∀ other ∈ after, other.kind ≠ sub.kind) : Chosen above given sub

variable {above : KindHandlers} {given : List KindHandler}

theorem chosen_iff {sub : KindHandler} : Chosen above given sub ↔
    (above.orElse (given.foldl set .none)).registered sub.kind = some sub := by
  rw [registered_orElse, registered_foldl_set, registered_none, Option.or_none]
  constructor
  · intro h
    cases h with
    | above there => rw [there, Option.some_or]
    | @last before after _ free split none_after =>
      rw [free, Option.none_or, split, List.find?_eq_some_iff_append]
      refine ⟨decide_eq_true rfl, after.reverse, before.reverse, by simp, fun other hother => ?_⟩
      simpa using none_after other (List.mem_reverse.1 hother)
  · intro h
    cases hover : above.registered sub.kind with
    | some other =>
      rw [hover, Option.some_or] at h
      rw [h] at hover
      exact .above hover
    | none =>
      rw [hover, Option.none_or, List.find?_eq_some_iff_append] at h
      obtain ⟨-, after, before, hsplit, hafter⟩ := h
      have hgiven : given = before.reverse ++ sub :: after.reverse := by
        simpa using congrArg List.reverse hsplit
      refine .last hover hgiven fun other hother => ?_
      simpa using hafter other (List.mem_reverse.1 hother)

/-! ## What a kind is served by -/

/-- What a kind is served by when some kinds are available: the handler that was chosen for it, or
the error that there is none. -/
inductive Serves (above : KindHandlers) (given : List KindHandler) (available : List TriggerKind)
    (kind : TriggerKind) : Handler → Prop where
  | chosen {sub : KindHandler} (chosen : Chosen above given sub) (same : sub.kind = kind) :
    Serves above given available kind sub.run
  | refused (absent : kind ∉ available) :
    Serves above given available kind fun _ _ => .fail (.noHandler kind available)

/-- The handlers that were given, with a set over them. -/
def merged (above : KindHandlers) (given : List KindHandler) : KindHandlers :=
  above.orElse (given.foldl set .none)

theorem mem_available_merged_iff {kind : TriggerKind} :
    kind ∈ (merged above given).available ↔ ∃ sub, Chosen above given sub ∧ sub.kind = kind := by
  rw [mem_available_iff]
  constructor
  · rintro ⟨sub, hsub⟩
    obtain rfl := kind_of_registered hsub
    exact ⟨sub, chosen_iff.2 hsub, rfl⟩
  · rintro ⟨sub, hchosen, rfl⟩
    exact ⟨sub, chosen_iff.1 hchosen⟩

theorem Chosen.eq_of_kind_eq {sub other : KindHandler} (h : Chosen above given sub)
    (hother : Chosen above given other) (hkind : sub.kind = other.kind) : sub = other := by
  have hsub := chosen_iff.1 h
  rw [hkind, chosen_iff.1 hother] at hsub
  exact (Option.some.inj hsub).symm

/-- Each kind is served, and by one handler only. -/
theorem existsUnique_serves (above : KindHandlers) (given : List KindHandler) (kind : TriggerKind) :
    ∃! f, Serves above given (merged above given).available kind f := by
  by_cases h : kind ∈ (merged above given).available
  · obtain ⟨sub, hchosen, hkind⟩ := mem_available_merged_iff.1 h
    refine ⟨sub.run, .chosen hchosen hkind, ?_⟩
    rintro _ (⟨hother, hsame⟩ | habsent)
    · rw [hother.eq_of_kind_eq hchosen (hsame.trans hkind.symm)]
    · exact absurd h habsent
  · refine ⟨_, .refused h, ?_⟩
    rintro _ (⟨hother, hsame⟩ | _)
    · exact absurd (mem_available_merged_iff.2 ⟨_, hother, hsame⟩) h
    · rfl

theorem dispatch_of_serves {kind : TriggerKind} {f : Handler}
    (h : Serves above given (merged above given).available kind f) (input : TriggerInput)
    {ctx : FlowContext} (hctx : ctx.trigger.kind = kind) :
    (merged above given).dispatch input ctx = f input ctx := by
  rw [dispatch_eq, hctx]
  cases h with
  | @chosen sub hchosen hsame =>
    rw [← hsame, merged, chosen_iff.1 hchosen]
    rfl
  | refused habsent =>
    have hnone : (merged above given).registered kind = .none :=
      Option.eq_none_iff_forall_ne_some.2 fun sub hsub => habsent (mem_available_iff.2 ⟨sub, hsub⟩)
    rw [hnone]
    rfl

end KindHandlers

/-! ## Invocations -/

namespace TriggerHandler

variable {τ : Type}

theorem kind_context (w : TriggerHandler) (engine : Engine) (trace : TraceContext)
    (input : TriggerInput) : (w.context engine trace input).trigger.kind = w.trigger.kind := by
  show (w.trigger.info w.index).kind = w.trigger.kind
  cases w.trigger <;> rfl

/-- What is done with an input in a context goes by what the handler does in this context: also
behind middleware, which hands on other requests but no other context. -/
theorem work_congr (w : TriggerHandler) {f : Handler} {ctx : FlowContext}
    (h : ∀ input, w.handler input ctx = f input ctx) (input : TriggerInput) :
    w.work input ctx = { w with handler := f }.work input ctx := by
  obtain ⟨step, trigger, index, handler⟩ := w
  change ∀ input, handler input ctx = f input ctx at h
  have hlast : Middleware.last handler ctx = Middleware.last f ctx := by
    funext request
    rw [Middleware.last, Middleware.last, h]
  have hcompose (layers : List Middleware) :
      Middleware.compose layers ctx handler = Middleware.compose layers ctx f :=
    congrArg (Middleware.around layers ctx) hlast
  cases trigger with
  | http t => cases input <;> simp only [work, hcompose, h]
  | queue _ | cron _ | state _ | stream _ => simp only [work, h]

/-- A trigger is invoked as if the step had a handler only for its kind. -/
theorem invoke_eq_of_kind (w : TriggerHandler) {f : Handler}
    (h : ∀ input ctx, ctx.trigger.kind = w.trigger.kind → w.handler input ctx = f input ctx)
    (invocation : Invocation) :
    (w.invoke invocation : Run τ Json) = { w with handler := f }.invoke invocation := by
  have houtlines : w.Outlines { w with handler := f } := ⟨rfl, rfl, rfl⟩
  refine houtlines.invoke_congr rfl (fun engine trace input => ?_) invocation
  exact w.work_congr (fun input => h input _ (kind_context w engine trace _)) input

end TriggerHandler

namespace KindHandlers

/-- What a definition does with each kind of trigger when some handlers were given and a set goes
over them. -/
structure Routes (above : KindHandlers) (given : List KindHandler) (available : List TriggerKind)
    (d : StepDefinition) : Prop where
  /-- The kinds that have a handler, each once, in dispatch order. -/
  order : available.Sublist [.queue, .http, .cron, .state, .stream]
  mem_iff : ∀ kind, kind ∈ available ↔ ∃ sub, Chosen above given sub ∧ sub.kind = kind
  one : ∀ kind, ∃! f, Serves above given available kind f
  /-- The result is that of the handler which serves the kind. -/
  handler : ∀ kind f, Serves above given available kind f → ∀ input ctx, ctx.trigger.kind = kind →
    d.handler input ctx = f input ctx
  /-- At a trigger the step is invoked as if this was its only handler. -/
  wrapped : ∀ (w : TriggerHandler) (f : Handler), w.handler = d.handler →
    Serves above given available w.trigger.kind f → ∀ (τ : Type) (invocation : Invocation),
      (w.invoke invocation : Run τ Json) = { w with handler := f }.invoke invocation
  /-- So it is when the step was registered and the function of one of its triggers is invoked. -/
  registered : ∀ (filePath : String) (site site' : Site) (records : List RegistrationRecord),
    Setup.addStep d filePath site = (.ok records, site') →
    ∀ (i : Nat) (t : Trigger) (r : RegistrationRecord) (f : Handler),
      d.config.triggers[i]? = some t → records[i]? = some r →
      Serves above given available t.kind f → ∀ readFile identifiers invocation,
        site'.invoke readFile identifiers r.functionId invocation =
          (EngineFunction.handler ⟨d.config.name, t, i, f⟩).invoke invocation
            (site'.surroundings readFile identifiers) .none (.start site'.transport)

theorem routes_of_handler_eq {above : KindHandlers} {given : List KindHandler} {d : StepDefinition}
    (h : d.handler = (merged above given).dispatch) :
    Routes above given (merged above given).available d := by
  have hhandler (kind : TriggerKind) (f : Handler)
      (hf : Serves above given (merged above given).available kind f) (input : TriggerInput)
      (ctx : FlowContext) (hctx : ctx.trigger.kind = kind) :
      d.handler input ctx = f input ctx := by
    rw [h]
    exact dispatch_of_serves hf input hctx
  have hwrapped (w : TriggerHandler) (f : Handler) (hw : w.handler = d.handler)
      (hf : Serves above given (merged above given).available w.trigger.kind f) (τ : Type)
      (invocation : Invocation) :
      (w.invoke invocation : Run τ Json) = { w with handler := f }.invoke invocation := by
    refine w.invoke_eq_of_kind (fun input ctx hctx => ?_) invocation
    rw [hw]
    exact hhandler _ f hf input ctx hctx
  refine ⟨List.filter_sublist, fun _ => mem_available_merged_iff, existsUnique_serves above given,
    hhandler, hwrapped, ?_⟩
  intro filePath site site' records hadd i t r f ht hr hf readFile identifiers invocation
  obtain ⟨rfl, -, rfl⟩ := Setup.addStep_ok_iff.1 hadd
  have hmem := StepDefinition.mem_functions ht hr _ List.mem_cons_self
  have hinvoke (reached : Invocation) :
      ((EngineFunction.handler ⟨d.config.name, t, i, d.handler⟩).apply reached :
        Run (Recorder EngineFunction) Json) =
        (EngineFunction.handler ⟨d.config.name, t, i, f⟩).apply reached :=
    hwrapped ⟨d.config.name, t, i, d.handler⟩ f rfl hf _ reached
  rw [Site.invoke, StepDefinition.function?_addedTo_of_mem hmem]
  simp only [EngineFunction.invoke, hinvoke]

end KindHandlers

namespace MultiTriggerBuilder

open KindHandlers

theorem handlers_of_start {source : ConfigSource} {b : MultiTriggerBuilder}
    (h : start source = .ok b) : b.handlers = .none := by
  rw [start] at h
  cases hc : source.checked with
  | error error =>
    rw [hc] at h
    cases h
  | ok c =>
    rw [hc] at h
    obtain rfl := Except.ok.inj h
    rfl

/-- However handlers were given to a new builder, with or without a set over them at the end, each
trigger is served by the handler that was chosen for its kind. -/
theorem routes_by_kind {source : ConfigSource} {b : MultiTriggerBuilder} (h : start source = .ok b)
    (given : List KindHandler) :
    (∃ available, Routes .none given available (given.foldl on b).build) ∧
    ∀ above, ∃ available, Routes above given available ((given.foldl on b).buildOver above) := by
  have hgiven : (given.foldl on b).handlers = given.foldl set .none := by
    rw [Construction.foldl_on, handlers_of_start h]
  refine ⟨⟨_, routes_of_handler_eq ?_⟩, fun above => ⟨_, routes_of_handler_eq ?_⟩⟩
  · show (given.foldl on b).handlers.dispatch = _
    rw [hgiven]
    rfl
  · show (above.orElse (given.foldl on b).handlers).dispatch = _
    rw [hgiven]
    rfl

theorem start_of_toConfig {source : ConfigSource} {c : StepConfig} (hread : source.toConfig = .ok c)
    (hsound : c.problems = []) : start source = .ok ⟨c, hsound, .none⟩ := by
  rw [start, ConfigSource.checked, hread]
  show Except.map _ (if h : c.problems = [] then _ else _) = _
  rw [dif_pos hsound]
  rfl

/-- A step on a topic and a schedule, with three handlers and a set that has one for schedules. -/
theorem routes_by_kind_sync :
    let answer (text : String) : Activity StepOutput := .done (.value (.string text))
    let given : List KindHandler := [.queue fun _ _ => answer "first", .cron fun _ => answer "given",
      .queue fun _ _ => answer "second"]
    let above := { KindHandlers.none with cron := some fun _ => answer "tick" }
    ∃ b, start (.json SetupCall.syncing) = .ok b ∧
      (∃ available, Routes above given available ((given.foldl on b).buildOver above)) ∧
      let handler := ((given.foldl on b).buildOver above).handler
      handler (.queue .null) (.detached .queue) = answer "second" ∧
      handler .cron (.detached .cron) = answer "tick" ∧
      handler .cron (.detached .state) = .fail (.noHandler .state [.queue, .cron]) := by
  intro answer given above
  have hread : (ConfigSource.json SetupCall.syncing).toConfig = .ok { StepConfig.new "Sync" with
      triggers := [.queue (.new "records.changed"), .cron ⟨"0 * * * *", none⟩] } := rfl
  have hstart := start_of_toConfig hread (by decide)
  exact ⟨_, hstart, (routes_by_kind hstart given).2 above, rfl, rfl, rfl⟩

end MultiTriggerBuilder

end StepEngine
