import StepEngine.Trace
import StepEngine.Error
/-!
# What a handler does

A handler, a condition or a middleware is a tree of the things it does, one after the other; what
answers its calls is not part of it. Each thing is finished before the next begins: there is no tree
for a handler that has two calls under way at once, or that gives one up and goes on. An activity that
is given up is given up as a whole.

* `LogEntry` : a log line with its fields;
* `Operation` : a call to the transport, with the attributes its span shows;
* `Activity α` : the tree; it ends with a result, with an error, or never;
* `Activity.bind` : one activity after another, with the laws of a monad;
* `Activity.attempt` : an activity whose error is a result.
-/

namespace StepEngine

inductive LogLevel where
  | debug
  | info
  | warn
  | error
  deriving DecidableEq

namespace LogLevel

def name : LogLevel → String
  | debug => "debug"
  | info => "info"
  | warn => "warn"
  | error => "error"

end LogLevel

structure LogEntry where
  level : LogLevel
  message : String
  fields : List (String × Json)
  deriving DecidableEq

/-- A call to the transport. -/
structure Operation where
  name : String
  payload : Json
  /-- What the span of the call shows. -/
  attributes : List (String × String)
  /-- The context whose child the span of the call is. -/
  parent : TraceContext
  deriving DecidableEq

/-- What is done, step by step. -/
inductive Activity (α : Type) where
  | done (result : α)
  | fail (error : StepError)
  /-- Leaves a text in the journal. -/
  | note (text : String) (next : Activity α)
  | log (entry : LogEntry) (next : Activity α)
  | call (operation : Operation) (next : Except StepError Json → Activity α)
  /-- Waits for something that never comes. -/
  | stall

namespace Activity

def bind (a : Activity α) (next : α → Activity β) : Activity β :=
  match a with
  | done result => next result
  | fail error => fail error
  | note text rest => note text (rest.bind next)
  | log entry rest => log entry (rest.bind next)
  | call operation rest => call operation fun answer => (rest answer).bind next
  | stall => stall

instance : Monad Activity where
  pure := done
  bind := bind

@[simp] theorem pure_eq (a : α) : (pure a : Activity α) = done a := rfl

@[simp] theorem bind_eq (a : Activity α) (f : α → Activity β) : a >>= f = a.bind f := rfl

@[simp] theorem bind_done (a : Activity α) : a.bind done = a := by
  induction a with
  | done _ | fail _ | stall => rfl
  | note _ _ ih | log _ _ ih => simp [bind, ih]
  | call _ _ ih => simp [bind, ih]

theorem bind_bind (a : Activity α) (f : α → Activity β) (g : β → Activity γ) :
    (a.bind f).bind g = a.bind fun x => (f x).bind g := by
  induction a with
  | done _ | fail _ | stall => rfl
  | note _ _ ih | log _ _ ih => simp [bind, ih]
  | call _ _ ih => simp [bind, ih]

instance : LawfulMonad Activity :=
  LawfulMonad.mk' Activity
    (fun a => bind_done a)
    (fun _ _ => rfl)
    (fun a f g => bind_bind a f g)

/-- The activity with its error, if it has one, as a result. -/
def attempt : Activity α → Activity (Except StepError α)
  | done result => done (.ok result)
  | fail error => done (.error error)
  | note text rest => note text rest.attempt
  | log entry rest => log entry rest.attempt
  | call operation rest => call operation fun answer => (rest answer).attempt
  | stall => stall

def ofExcept : Except StepError α → Activity α
  | .ok result => done result
  | .error error => fail error

/-- A call whose error is an error of the activity. -/
def perform (operation : Operation) : Activity Json :=
  call operation ofExcept

end Activity

end StepEngine
