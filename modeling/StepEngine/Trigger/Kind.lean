import StepEngine.Decode.Basic
/-!
# Kinds of triggers and HTTP methods

* `TriggerKind` : the five ways to wake a step; `TriggerKind.all` lists them in dispatch order;
* `HttpMethod` : the methods a route can have;
* `HttpMethod.parse?` : a method by its name in any case.
-/

namespace StepEngine

/-- What can wake a step. -/
inductive TriggerKind where
  | http
  | queue
  | cron
  | state
  | stream
  deriving DecidableEq, Inhabited

namespace TriggerKind

def all : List TriggerKind := [queue, http, cron, state, stream]

def name : TriggerKind → String
  | http => "http"
  | queue => "queue"
  | cron => "cron"
  | state => "state"
  | stream => "stream"

/-- The names of the kinds, each after its older spelling. -/
def names : List (String × TriggerKind) := [
  ("api", http), ("http", http), ("event", queue), ("queue", queue), ("cron", cron),
  ("state", state), ("stream", stream)]

def encode (k : TriggerKind) : Json := .string k.name

def decode (origin : Origin) : Decoder TriggerKind := Decode.named names origin

end TriggerKind

inductive HttpMethod where
  | get
  | post
  | put
  | delete
  | patch
  | options
  | head
  deriving DecidableEq, Inhabited

namespace HttpMethod

def all : List HttpMethod := [get, post, put, delete, patch, options, head]

def name : HttpMethod → String
  | get => "GET"
  | post => "POST"
  | put => "PUT"
  | delete => "DELETE"
  | patch => "PATCH"
  | options => "OPTIONS"
  | head => "HEAD"

def names : List (String × HttpMethod) := all.map fun m => (m.name, m)

def encode (m : HttpMethod) : Json := .string m.name

def decode (origin : Origin) : Decoder HttpMethod := Decode.named names origin

/-- A method by its name in any case, or the name that is none, in capitals. -/
def parse (s : String) : Except String HttpMethod :=
  match names.lookup s.toUpper with
  | some m => .ok m
  | none => .error s.toUpper

/-- The message about a name that is no method. -/
def unsupported (name : String) : String :=
  "unsupported HTTP method: " ++ name

end HttpMethod

end StepEngine
