import StepEngine.Context
import StepEngine.Response
/-!
# Handlers, conditions and middleware

* `StepOutput` : what a handler gives back; `toResponse`, `toJson`;
* `Handler`, `Condition`, `Middleware` : activities that depend on an input and a context;
* `Middleware.compose` : a list of middleware around a handler, the first outermost.
-/

namespace StepEngine

inductive StepOutput where
  | complete
  | value (v : Json)
  | response (r : ApiResponse)
  deriving DecidableEq

namespace StepOutput

/-- The output as a response: nothing is status 204, a value is the body of status 200. -/
def toResponse : StepOutput → ApiResponse
  | complete => .noContent
  | value v => .ok v
  | response r => r

/-- The output as a value: nothing is `null`, a response is written out. -/
def toJson : StepOutput → Json
  | complete => .null
  | value v => v
  | response r => r.encode

end StepOutput

/-- What a step does with an input. -/
abbrev Handler := TriggerInput → FlowContext → Activity StepOutput

/-- Whether a trigger lets an input through. -/
abbrev Condition := TriggerInput → FlowContext → Activity Bool

abbrev Next := ApiRequest → Activity ApiResponse

/-- What stands around the handling of a request. -/
abbrev Middleware := ApiRequest → FlowContext → Next → Activity ApiResponse

namespace Middleware

/-- A handler as the last of a chain. -/
def last (handler : Handler) (ctx : FlowContext) : Next := fun request =>
  (handler (.http request) ctx).bind fun output => .done output.toResponse

/-- Middleware around what comes after all of it, the first outermost. -/
def around (layers : List Middleware) (ctx : FlowContext) (next : Next) : Next :=
  layers.foldr (fun layer next request => layer request ctx next) next

def compose (layers : List Middleware) (ctx : FlowContext) (handler : Handler) : Next :=
  around layers ctx (last handler ctx)

end Middleware

end StepEngine
