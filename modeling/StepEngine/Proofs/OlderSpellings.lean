import StepEngine.Proofs.ConfigCodec
import StepEngine.Proofs.Spelling

/-!
# Older spellings of configurations

Configurations that were written for earlier versions have other names for some fields and for two
kinds of triggers. They mean the same as with the names of today.

* `QueueSettings.shape`, `Infrastructure.shape`, `Trigger.shape`, `StepConfig.shape` : the names,
  old and new, at every place of a configuration; what stands inside of schemas is left as it is;
* `QueueSettings.faithful`, `Infrastructure.faithful`, `Trigger.faithful`, `StepConfig.faithful` :
  the decoders know these names and no others;
* `StepConfig.SameMeaning` : two values are read as one configuration, or both are refused;
* `StepConfig.older_spellings_mean_the_same` : a value means the same as with the names of today,
  and one that gives a field twice is refused.
-/

namespace StepEngine

open Spelling

/-! ## Infrastructure -/

def QueueSettings.fields : List FieldSpelling := [
  ⟨"type", [], same⟩,
  ⟨"maxRetries", ["max_retries"], same⟩,
  ⟨"visibilityTimeout", ["visibility_timeout"], same⟩,
  ⟨"delaySeconds", ["delay_seconds"], same⟩]

def QueueSettings.shape : Spelling := .record fields

theorem QueueSettings.faithful (origin : Origin) : shape.Faithful (decode origin) := by
  have hspelled : (record origin).fields.Spelled fields :=
    ⟨⟨rfl, rfl⟩, faithful_same _, ⟨rfl, rfl⟩, faithful_same _, ⟨rfl, rfl⟩, faithful_same _,
      ⟨rfl, rfl⟩, faithful_same _, rfl⟩
  exact (faithful_record hspelled rfl (by cases origin <;> decide) origin).bind _

def Infrastructure.fields : List FieldSpelling := [
  ⟨"handler", [], same⟩,
  ⟨"queue", [], QueueSettings.shape⟩]

def Infrastructure.shape : Spelling := .record fields

theorem Infrastructure.faithful (origin : Origin) : shape.Faithful (decode origin) := by
  have hspelled : (record origin).fields.Spelled fields :=
    ⟨⟨rfl, rfl⟩, faithful_same _, ⟨rfl, rfl⟩, (QueueSettings.faithful origin).optional, rfl⟩
  exact (faithful_record hspelled rfl (by cases origin <;> decide) origin).bind _

/-! ## Triggers -/

namespace Trigger

def olderTags : List (String × String) := [("api", "http"), ("event", "queue")]

def fieldsByTag : List (String × List FieldSpelling) := [
  ("http", [
    ⟨"method", [], same⟩,
    ⟨"path", [], same⟩,
    ⟨"bodySchema", ["body_schema"], same⟩,
    ⟨"responseSchema", ["response_schema"], same⟩,
    ⟨"queryParams", ["query_params"], same⟩]),
  ("queue", [
    ⟨"topic", [], same⟩,
    ⟨"input", [], same⟩,
    ⟨"infrastructure", [], Infrastructure.shape⟩]),
  ("cron", [⟨"expression", [], same⟩]),
  ("state", []),
  ("stream", [
    ⟨"streamName", ["stream_name"], same⟩,
    ⟨"groupId", ["group_id"], same⟩,
    ⟨"itemId", ["item_id"], same⟩])]

def fields (tag : String) : List FieldSpelling := (fieldsByTag.lookup tag).getD []

def shape : Spelling := .tagged olderTags fields

theorem nameIn_modernTag (tag : String) :
    Decode.nameIn TriggerKind.names (modernTag olderTags tag) =
      Decode.nameIn TriggerKind.names tag := by
  by_cases hapi : tag = "api"
  · rw [hapi]
    rfl
  · by_cases hevent : tag = "event"
    · rw [hevent]
      rfl
    · have hnone : olderTags.lookup tag = none := by
        rw [olderTags, SortedMap.lookup_cons_eq, if_neg hapi, SortedMap.lookup_cons_eq,
          if_neg hevent]
        rfl
      rw [modernTag, hnone]
      rfl

/-- The fields of the trigger of a kind. -/
theorem faithful_fields (kind : TriggerKind) :
    (Spelling.record (fields kind.name)).Faithful (decodeFields kind) := by
  cases kind with
  | http =>
    have hspelled : HttpTrigger.record.fields.Spelled (fields "http") :=
      ⟨⟨rfl, rfl⟩, faithful_same _, ⟨rfl, rfl⟩, faithful_same _, ⟨rfl, rfl⟩, faithful_same _,
        ⟨rfl, rfl⟩, faithful_same _, ⟨rfl, rfl⟩, faithful_same _, rfl⟩
    exact ((faithful_record hspelled rfl (by decide) .setAside).bind _).map http
  | queue =>
    have hspelled : QueueTrigger.record.fields.Spelled (fields "queue") :=
      ⟨⟨rfl, rfl⟩, faithful_same _, ⟨rfl, rfl⟩, faithful_same _, ⟨rfl, rfl⟩,
        (Infrastructure.faithful .setAside).optional, rfl⟩
    exact ((faithful_record hspelled rfl (by decide) .setAside).bind _).map queue
  | cron =>
    have hspelled : CronTrigger.record.fields.Spelled (fields "cron") :=
      ⟨⟨rfl, rfl⟩, faithful_same _, rfl⟩
    exact ((faithful_record hspelled rfl (by decide) .setAside).bind _).map cron
  | state =>
    have hspelled : StateTrigger.record.fields.Spelled (fields "state") := rfl
    exact ((faithful_record hspelled rfl (by decide) .setAside).bind _).map state
  | stream =>
    have hspelled : StreamTrigger.record.fields.Spelled (fields "stream") :=
      ⟨⟨rfl, rfl⟩, faithful_same _, ⟨rfl, rfl⟩, faithful_same _, ⟨rfl, rfl⟩, faithful_same _, rfl⟩
    exact ((faithful_record hspelled rfl (by decide) .setAside).bind _).map stream

/-- A tag that is known means a kind, whose name is the tag of today. -/
theorem modernTag_eq_name {tag : String} {kind : TriggerKind}
    (h : Decode.nameIn TriggerKind.names tag = .ok kind) : modernTag olderTags tag = kind.name := by
  unfold Decode.nameIn at h
  split at h
  · next found hfound =>
    obtain rfl := Except.ok.inj h
    obtain ⟨before, after, hsplit, -⟩ := List.lookup_eq_some_iff.1 hfound
    have hmem : (tag, found) ∈ TriggerKind.names := by
      rw [hsplit]
      exact List.mem_append_right _ List.mem_cons_self
    simp only [TriggerKind.names, List.mem_cons, Prod.mk.injEq, List.not_mem_nil, or_false] at hmem
    rcases hmem with ⟨rfl, rfl⟩ | ⟨rfl, rfl⟩ | ⟨rfl, rfl⟩ | ⟨rfl, rfl⟩ | ⟨rfl, rfl⟩ | ⟨rfl, rfl⟩ |
      ⟨rfl, rfl⟩ <;> rfl
  · cases h

theorem decode_eq_byTag :
    decode = Decode.byTag "Trigger" TriggerKind.names decodeFields := by
  funext v
  change (Decode.splitTag "Trigger" TriggerKind.names v).bind _ = Except.bind _ _
  refine congrArg _ (funext fun ⟨kind, rest⟩ => ?_)
  cases kind <;> rfl

theorem faithful : shape.Faithful decode := by
  rw [decode_eq_byTag]
  refine faithful_tagged nameIn_modernTag ?_
  intro tag kind hkind
  rw [modernTag_eq_name hkind]
  refine ⟨?_, faithful_fields kind⟩
  cases kind <;> decide

end Trigger

/-! ## Configurations -/

namespace StepConfig

def fields : List FieldSpelling := [
  ⟨"name", [], same⟩,
  ⟨"triggers", [], .list Trigger.shape⟩,
  ⟨"enqueues", ["emits"], same⟩,
  ⟨"virtualEnqueues", ["virtual_enqueues", "virtualEmits", "virtual_emits"], same⟩,
  ⟨"virtualSubscribes", ["virtual_subscribes"], same⟩,
  ⟨"description", [], same⟩,
  ⟨"flows", [], same⟩,
  ⟨"includeFiles", ["include_files"], same⟩,
  ⟨"infrastructure", [], Infrastructure.shape⟩]

def shape : Spelling := .record fields

theorem faithful : shape.Faithful decode := by
  have hspelled : record.fields.Spelled fields :=
    ⟨⟨rfl, rfl⟩, faithful_same _, ⟨rfl, rfl⟩, Trigger.faithful.list, ⟨rfl, rfl⟩, faithful_same _,
      ⟨rfl, rfl⟩, faithful_same _, ⟨rfl, rfl⟩, faithful_same _, ⟨rfl, rfl⟩, faithful_same _,
      ⟨rfl, rfl⟩, faithful_same _, ⟨rfl, rfl⟩, faithful_same _, ⟨rfl, rfl⟩,
      (Infrastructure.faithful .direct).optional, rfl⟩
  exact (faithful_record hspelled rfl (by decide) .direct).bind _

theorem ofJson_eq_ok_iff {v : Json} {c : StepConfig} : ofJson v = .ok c ↔ decode v = .ok c := by
  rw [ofJson]
  cases decode v with
  | ok d =>
    show Except.ok d = .ok c ↔ Except.ok d = .ok c
    rw [Except.ok.injEq, Except.ok.injEq]
  | error cause =>
    constructor
    · intro h
      cases h
    · intro h
      cases h

/-- Two values are read as one configuration, with the same problems and registrations, or both are
refused. -/
structure SameMeaning (v w : Json) : Prop where
  succeeds : (∃ c, ofJson v = .ok c) ↔ ∃ c, ofJson w = .ok c
  config : ∀ c d, ofJson v = .ok c → ofJson w = .ok d → c = d
  problems : ∀ c d, ofJson v = .ok c → ofJson w = .ok d → c.problems = d.problems
  registrations : ∀ c d, ofJson v = .ok c → ofJson w = .ok d →
    ∀ filePath, c.registrations filePath = d.registrations filePath

theorem sameMeaning_of_iff {v w : Json} (h : ∀ c, ofJson w = .ok c ↔ ofJson v = .ok c) :
    SameMeaning v w := by
  have hconfig (c d : StepConfig) (hc : ofJson v = .ok c) (hd : ofJson w = .ok d) : c = d := by
    have hd' := (h d).1 hd
    rw [hc] at hd'
    exact Except.ok.inj hd'
  constructor
  · exact exists_congr fun c => (h c).symm
  · exact hconfig
  · intro c d hc hd
    rw [hconfig c d hc hd]
  · intro c d hc hd filePath
    rw [hconfig c d hc hd]

/-- A value in which no object of a configuration gives a field twice means the same as with the
names of today. A value with an object that does is refused. -/
theorem older_spellings_mean_the_same (v : Json) :
    (shape.clear v = true → SameMeaning v (shape.modern v)) ∧
    (shape.clear v = false → ∃ cause, ofJson v = .error (.configuration cause)) := by
  constructor
  · intro hclear
    refine sameMeaning_of_iff fun c => ?_
    rw [ofJson_eq_ok_iff, ofJson_eq_ok_iff]
    exact faithful.reads v hclear c
  · intro htwice
    cases hdecode : decode v with
    | ok c =>
      rw [faithful.refuses v c hdecode] at htwice
      cases htwice
    | error cause =>
      refine ⟨.stepConfig cause, ?_⟩
      rw [ofJson, hdecode]
      rfl

/-- A step with the names of today. What stands inside of its schema looks like an older name. -/
def modernStep : Json := .ofMembers [
  ("name", .string "Sync"),
  ("triggers", .array [
    .ofMembers [("type", .string "http"), ("method", .string "POST"), ("path", .string "/sync"),
      ("bodySchema", .ofMembers [("body_schema", .bool true)]), ("queryParams", .array [])],
    .ofMembers [("type", .string "queue"), ("topic", .string "t"),
      ("infrastructure", .ofMembers [("queue", .ofMembers [("maxRetries", .ofNat 5)])])],
    .array [.string "stream", .string "todos"]]),
  ("enqueues", .array [.string "a"]),
  ("virtualEnqueues", .array [.string "b"]),
  ("virtualSubscribes", .array [.string "c"]),
  ("includeFiles", .array [.string "d"])]

def olderStep : Json := .ofMembers [
  ("name", .string "Sync"),
  ("triggers", .array [
    .ofMembers [("type", .string "api"), ("method", .string "POST"), ("path", .string "/sync"),
      ("body_schema", .ofMembers [("body_schema", .bool true)]), ("query_params", .array [])],
    .ofMembers [("type", .string "event"), ("topic", .string "t"),
      ("infrastructure", .ofMembers [("queue", .ofMembers [("max_retries", .ofNat 5)])])],
    .array [.string "stream", .string "todos"]]),
  ("emits", .array [.string "a"]),
  ("virtual_emits", .array [.string "b"]),
  ("virtual_subscribes", .array [.string "c"]),
  ("include_files", .array [.string "d"])]

/-- The step means the same. With its topics under two names it is refused. -/
theorem older_step_means_the_same :
    shape.clear olderStep = true ∧ shape.modern olderStep = modernStep ∧
      SameMeaning olderStep modernStep ∧ (∃ c, ofJson olderStep = .ok c ∧ c.triggers.length = 3) ∧
      shape.clear (olderStep.withMember "enqueues" (.array [])) = false ∧
      ∃ cause, ofJson (olderStep.withMember "enqueues" (.array [])) =
        .error (.configuration cause) := by
  have hclear : shape.clear olderStep = true := by decide
  have hmodern : shape.modern olderStep = modernStep := by decide
  have htwice : shape.clear (olderStep.withMember "enqueues" (.array [])) = false := by decide
  have hsame := (older_spellings_mean_the_same olderStep).1 hclear
  rw [hmodern] at hsame
  exact ⟨hclear, hmodern, hsame, ⟨_, rfl, rfl⟩, htwice, (older_spellings_mean_the_same _).2 htwice⟩

end StepConfig

end StepEngine
