import StepEngine.Handler
/-!
# A handler for each kind of trigger

* `KindHandlers` : at most one handler for each kind; a schedule's handler gets no input;
* `KindHandlers.available` : the kinds that have one, in dispatch order;
* `KindHandlers.orElse` : the handlers of two, those of the first where both have one;
* `KindHandlers.dispatch` : one handler that goes by the kind of the trigger that fired.
-/

namespace StepEngine

/-- What a schedule runs: there is no input. -/
abbrev TickHandler := FlowContext → Activity StepOutput

/-- At most one handler for each kind of trigger. -/
structure KindHandlers where
  queue : Option Handler
  http : Option Handler
  cron : Option TickHandler
  state : Option Handler
  stream : Option Handler

namespace KindHandlers

def none : KindHandlers :=
  ⟨.none, .none, .none, .none, .none⟩

instance : Inhabited KindHandlers := ⟨none⟩

def onQueue (h : KindHandlers) (handler : Handler) : KindHandlers :=
  { h with queue := some handler }

def onHttp (h : KindHandlers) (handler : Handler) : KindHandlers :=
  { h with http := some handler }

def onCron (h : KindHandlers) (handler : TickHandler) : KindHandlers :=
  { h with cron := some handler }

def onState (h : KindHandlers) (handler : Handler) : KindHandlers :=
  { h with state := some handler }

def onStream (h : KindHandlers) (handler : Handler) : KindHandlers :=
  { h with stream := some handler }

def has (h : KindHandlers) : TriggerKind → Bool
  | .queue => h.queue.isSome
  | .http => h.http.isSome
  | .cron => h.cron.isSome
  | .state => h.state.isSome
  | .stream => h.stream.isSome

/-- The kinds that have a handler, in dispatch order. -/
def available (h : KindHandlers) : List TriggerKind :=
  TriggerKind.all.filter h.has

/-- The handlers of two, those of the first where both have one. -/
def orElse (h other : KindHandlers) : KindHandlers where
  queue := h.queue <|> other.queue
  http := h.http <|> other.http
  cron := h.cron <|> other.cron
  state := h.state <|> other.state
  stream := h.stream <|> other.stream

def dispatch (h : KindHandlers) : Handler := fun input ctx =>
  let routed : Option (Activity StepOutput) := match ctx.trigger.kind with
    | .queue => h.queue.map fun handler => handler input ctx
    | .http => h.http.map fun handler => handler input ctx
    | .cron => h.cron.map fun handler => handler ctx
    | .state => h.state.map fun handler => handler input ctx
    | .stream => h.stream.map fun handler => handler input ctx
  routed.getD (.fail (.noHandler ctx.trigger.kind h.available))

end KindHandlers

end StepEngine
