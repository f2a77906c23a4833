import StepEngine.Engine.Function
import StepEngine.Transport.Recorder
/-!
# Setting up an engine

* `Site` : an engine, the transport it registers with, and the events so far;
* `Setup α` : what is set up; an error leaves what was done before it;
* `Setup.addStep` : registers all triggers of a step: its functions first, then its triggers; the
  step itself is recorded last;
* `Setup.stepEndpoint` : registers the endpoints that show steps;
* `Site.build` : a new engine on a transport;
* `Site.invoke` : the transport invokes a function.
-/

namespace StepEngine

/-- An engine, the transport it registers with, and the events so far. -/
structure Site where
  engine : Engine
  transport : Recorder EngineFunction
  events : List Event

/-- What is set up. An error leaves what was done before it. -/
def Setup (α : Type) := Site → Except StepError α × Site

namespace Setup

variable {α β : Type}

def done (result : α) : Setup α := fun site => (.ok result, site)

def bind (a : Setup α) (next : α → Setup β) : Setup β := fun site =>
  match a site with
  | (.ok result, site) => next result site
  | (.error error, site) => (.error error, site)

def log (entry : LogEntry) : Setup Unit := fun site =>
  (.ok (), { site with events := site.events ++ [.logged entry none] })

def logAll : List LogEntry → Setup Unit
  | [] => done ()
  | entry :: rest => (log entry).bind fun _ => logAll rest

/-- A change of the transport that it may refuse. -/
def register (change : Recorder EngineFunction → Except StepError (Recorder EngineFunction)) :
    Setup Unit := fun site =>
  match change site.transport with
  | .ok transport => (.ok (), { site with transport := transport })
  | .error error => (.error error, site)

def registerFunction (id : String) (f : EngineFunction) : Setup Unit :=
  register fun transport => transport.registerFunction id f

def registerFunctions : List (String × EngineFunction) → Setup Unit
  | [] => done ()
  | (id, f) :: rest => (registerFunction id f).bind fun _ => registerFunctions rest

def registerTrigger (t : TriggerRegistration) : Setup Unit :=
  register fun transport => transport.registerTrigger t

def registerTriggers : List TriggerRegistration → Setup Unit
  | [] => done ()
  | t :: rest => (registerTrigger t).bind fun _ => registerTriggers rest

def modifyEngine (change : Engine → Engine) : Setup Unit := fun site =>
  (.ok (), { site with engine := change site.engine })

/-! ## Steps -/

/-- The functions of a trigger by id: its handler, then its condition if it has one. -/
def functionsOf (d : StepDefinition) (index : Nat) (t : Trigger) (r : RegistrationRecord) :
    List (String × EngineFunction) :=
  (r.functionId, .handler ⟨d.config.name, t, index, d.handler⟩) ::
    match t.condition, r.conditionId with
    | some condition, some id => [(id, .gate ⟨d.config.name, t.info index, condition⟩)]
    | _, _ => []

def triggerEntry (step : String) (r : RegistrationRecord) : LogEntry :=
  ⟨.debug, "Registering trigger",
    [("step", .string step), ("function_id", .string r.functionId),
      ("trigger", r.kindConfig.kind.encode)]⟩

/-- Registers the functions of triggers, the first of them at an index. -/
def registerStepFunctions (d : StepDefinition) : (index : Nat) →
    List (Trigger × RegistrationRecord) → Setup Unit
  | _, [] => done ()
  | index, (t, r) :: rest =>
    (log (triggerEntry d.config.name r)).bind fun _ =>
    (registerFunctions (functionsOf d index t r)).bind fun _ =>
    registerStepFunctions d (index + 1) rest

def stepEntry (step filePath : String) (triggers : Nat) : LogEntry :=
  ⟨.info, "Step registered",
    [("step", .string step), ("triggers", .ofNat triggers), ("file_path", .string filePath)]⟩

def addStep (d : StepDefinition) (filePath : String) : Setup (List RegistrationRecord) :=
  let records := d.config.registrations filePath
  (logAll d.config.duplicateWarnings).bind fun _ =>
  (registerStepFunctions d 0 (d.config.triggers.zip records)).bind fun _ =>
  (registerTriggers (records.map RegistrationRecord.toTriggerRegistration)).bind fun _ =>
  (modifyEngine fun r => r.withSource ⟨d.config.name, filePath⟩).bind fun _ =>
  (log (stepEntry d.config.name filePath records.length)).bind fun _ =>
  done records

def addStream (c : StreamConfig) : Setup Unit :=
  (log ⟨.info, "Stream registered", [("stream", .string c.name)]⟩).bind fun _ =>
    modifyEngine fun r => r.withStream c

/-! ## Endpoints -/

/-- Registers a function with a route that asks for it, and says so. -/
def registerEndpoint (id path label : String) (f : EngineFunction) : Setup Unit :=
  (registerFunction id f).bind fun _ =>
  (registerTrigger ⟨.http, id, .ofList (KindConfig.http path .get).members⟩).bind fun _ =>
  log ⟨.info, "Registered " ++ label ++ " endpoint: GET " ++ path, []⟩

def stepEndpoint : Setup Unit :=
  (registerEndpoint "kikkake::step::get" "__kikkake/step/:stepId" "step" .stepContent).bind fun _ =>
    registerEndpoint "kikkake::steps::list" "__kikkake/steps" "steps list" .stepList

/-! ## A new engine -/

def construct : Setup Unit := fun site =>
  let ready := log ⟨.info, "Runtime initialized",
    [("service", .string site.engine.settings.serviceName)]⟩
  if site.engine.settings.stepEndpoint then (stepEndpoint.bind fun _ => ready) site
  else ready site

end Setup

/-- An engine without steps. The propagator of traces comes before all other interceptors. -/
def Engine.new (settings : Settings) (interceptors : List Interceptor)
    (streams : List StreamConfig) : Engine where
  settings := settings
  interceptors := .propagator :: interceptors
  streams := .ofList (streams.map fun c => (c.name, c))
  sources := .empty

namespace Site

def build (transport : Option (Recorder EngineFunction)) (engine : Engine) :
    Except StepError Site :=
  match transport with
  | none => .error (.configuration .noTransport)
  | some transport =>
    match Setup.construct ⟨engine, transport, []⟩ with
    | (.ok (), site) => .ok site
    | (.error error, _) => .error error

def surroundings (site : Site) (readFile : String → Option (Except FileFault String))
    (identifiers : Nat → BitVec 128) : Surroundings (Recorder EngineFunction) where
  engine := site.engine
  answer transport call :=
    let (answer, transport) := transport.call call
    (some answer, transport)
  readFile := readFile
  identifiers := identifiers

def invoke (site : Site) (readFile : String → Option (Except FileFault String))
    (identifiers : Nat → BitVec 128) (id : String) (invocation : Invocation) :
    Outcome Json × Progress (Recorder EngineFunction) :=
  match site.transport.function? id with
  | none => (some (.error (.configuration (.unknownFunction id))), .start site.transport)
  | some f => f.invoke invocation (site.surroundings readFile identifiers) none
      (.start site.transport)

end Site

end StepEngine
