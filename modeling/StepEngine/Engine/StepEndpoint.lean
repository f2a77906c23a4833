import StepEngine.Engine.Run
import StepEngine.Response
import StepEngine.Text.Replace
/-!
# Endpoints that show steps

* `StepEndpoint.get` : the source of a step by its id, with the tutorial that goes with it;
* `StepEndpoint.list` : the ids, names and paths of all steps, in the order of the ids.

Only paths of registered steps, and the tutorials next to them, are ever read.
-/

namespace StepEngine.StepEndpoint

variable {τ : Type}

def featuresPath (filePath : String) : String :=
  Text.replace filePath "/src/" "/tutorial/" ++ "-features.json"

def unreadableEntry (path : String) (cause : Json.ReadError) : LogEntry :=
  ⟨.debug, "Ignoring unreadable features file",
    [("path", .string path), ("error", .string cause.message)]⟩

/-- The tutorial of a source; nothing when there is none, or when it cannot be read. -/
def features (filePath : String) : Run τ Json :=
  let path := featuresPath filePath
  (Run.readFile path).bind fun
    | .error _ => Run.done (.array [])
    | .ok text =>
      match Json.read text with
      | .ok v => Run.done v
      | .error cause => (Run.log (unreadableEntry path cause)).bind fun _ => Run.done (.array [])

def failure (status : UInt16) (message : String) : ApiResponse :=
  .json status (.object [("error", .string message)])

def failureEntry (path : String) (fault : FileFault) : LogEntry :=
  ⟨.error, "Error reading step file",
    [("path", .string path), ("error", .string fault.message)]⟩

def content (id : String) (source : StepSource) : Run τ ApiResponse :=
  (Run.readFile source.filePath).bind fun
    | .error fault =>
      (Run.log (failureEntry source.filePath fault)).bind fun _ =>
        Run.done (failure 500 ("Failed to read step: " ++ fault.message))
    | .ok text =>
      (features source.filePath).bind fun features =>
        Run.done (.ok (.object [("content", .string text), ("features", features),
          ("id", .string id)]))

def get (request : ApiRequest) : Run τ ApiResponse :=
  match request.pathParam "stepId" with
  | none | some "" => Run.done (failure 400 "stepId is required")
  | some id =>
    Run.engine.bind fun engine =>
      match (Uuid.parse? id).bind engine.source? with
      | none => Run.done (failure 404 "Step not found")
      | some source => content id source

def listEntry (entry : String × StepSource) : Json :=
  .object [("id", .string entry.1), ("name", .string entry.2.name),
    ("path", .string entry.2.filePath)]

def list (sources : StepSources) : ApiResponse :=
  .ok (.object [("steps", .array (sources.entries.map listEntry))])

def getFunction (invocation : Invocation) : Run τ Json :=
  (Run.ofExcept (StepError.decoded (ApiRequest.decode invocation.payload))).bind fun request =>
    (get request).bind fun response => Run.done response.encode

def listFunction : Run τ Json :=
  Run.engine.bind fun engine => Run.done (list engine.sources).encode

end StepEngine.StepEndpoint
