import StepEngine.Decode.Record
/-!
# Hints about infrastructure

* `HandlerResources` : what the process of a handler asks for;
* `QueueSettings` : how the queue that feeds a step delivers;
* `Infrastructure` : both, each optional, as configurations state them.

All decoders take the origin of the value, because the hints stand both in a step and in a trigger.
-/

namespace StepEngine

structure HandlerResources where
  /-- Memory in megabytes. -/
  ram : UInt32
  cpu : Option UInt32
  /-- Seconds. -/
  timeout : UInt32
  deriving DecidableEq

namespace HandlerResources

def record : Record [UInt32, Option UInt32, UInt32] where
  description := "struct HandlerConfig"
  closed := false
  fields :=
    .cons (.defaulted "ram" Decode.word32 128 []) <|
    .cons (.optional "cpu" Decode.word32 []) <|
    .cons (.defaulted "timeout" Decode.word32 30 []) .nil

def decode (origin : Origin) : Decoder HandlerResources := fun v => do
  let (ram, cpu, timeout, ()) ← record.decode origin v
  .ok ⟨ram, cpu, timeout⟩

def encode (r : HandlerResources) : Json :=
  .object ((r.cpu.map fun n => ("cpu", Json.ofNat n.toNat)).toList ++
    [("ram", .ofNat r.ram.toNat), ("timeout", .ofNat r.timeout.toNat)])

end HandlerResources

inductive QueueKind where
  | fifo
  | standard
  deriving DecidableEq

namespace QueueKind

def name : QueueKind → String
  | fifo => "fifo"
  | standard => "standard"

def names : List (String × QueueKind) :=
  [fifo, standard].map fun k => (k.name, k)

def decode (origin : Origin) : Decoder QueueKind := Decode.named names origin

def encode (k : QueueKind) : Json := .string k.name

end QueueKind

/-- How the queue that feeds a step delivers. -/
structure QueueSettings where
  kind : QueueKind
  maxRetries : UInt32
  /-- Seconds. -/
  visibilityTimeout : UInt32
  /-- Seconds. -/
  delay : UInt32
  deriving DecidableEq

namespace QueueSettings

def record (origin : Origin) : Record [QueueKind, UInt32, UInt32, UInt32] where
  description := "struct QueueConfig"
  closed := false
  fields :=
    .cons (.defaulted "type" (QueueKind.decode origin) .standard []) <|
    .cons (.defaulted "maxRetries" Decode.word32 3 ["max_retries"]) <|
    .cons (.defaulted "visibilityTimeout" Decode.word32 30 ["visibility_timeout"]) <|
    .cons (.defaulted "delaySeconds" Decode.word32 0 ["delay_seconds"]) .nil

def decode (origin : Origin) : Decoder QueueSettings := fun v => do
  let (kind, maxRetries, visibilityTimeout, delay, ()) ← (record origin).decode origin v
  .ok ⟨kind, maxRetries, visibilityTimeout, delay⟩

def encode (s : QueueSettings) : Json :=
  .object [
    ("delaySeconds", .ofNat s.delay.toNat),
    ("maxRetries", .ofNat s.maxRetries.toNat),
    ("type", s.kind.encode),
    ("visibilityTimeout", .ofNat s.visibilityTimeout.toNat)]

end QueueSettings

/-- Hints that are handed on to the transport. -/
structure Infrastructure where
  handler : Option HandlerResources
  queue : Option QueueSettings
  deriving DecidableEq

namespace Infrastructure

def record (origin : Origin) : Record [Option HandlerResources, Option QueueSettings] where
  description := "struct InfrastructureConfig"
  closed := false
  fields :=
    .cons (.optional "handler" (HandlerResources.decode origin) []) <|
    .cons (.optional "queue" (QueueSettings.decode origin) []) .nil

def decode (origin : Origin) : Decoder Infrastructure := fun v => do
  let (handler, queue, ()) ← (record origin).decode origin v
  .ok ⟨handler, queue⟩

/-- The value of hints: absent ones are left out. -/
def encode (i : Infrastructure) : Json :=
  .object (
    (i.handler.map fun h => ("handler", h.encode)).toList ++
    (i.queue.map fun q => ("queue", q.encode)).toList)

end Infrastructure

end StepEngine
