import StepEngine.Decode.Record
/-!
# HTTP requests

* `ParamValue` : one text or several; `ParamValue.first`, `values`;
* `ApiRequest` : a request; all its fields have defaults;
* `ApiRequest.header` : a header by its name in any case;
* `ApiRequest.decode`, `encode` : a request as a value.
-/

namespace StepEngine

/-- The value of a query parameter or header. -/
inductive ParamValue where
  | one (text : String)
  | many (texts : List String)
  deriving DecidableEq, Inhabited

namespace ParamValue

def first : ParamValue → Option String
  | one s => some s
  | many texts => texts.head?

def values : ParamValue → List String
  | one s => [s]
  | many texts => texts

def encode : ParamValue → Json
  | one s => .string s
  | many texts => .ofStrings texts

/-- A text, or a list of texts. -/
def decode : Decoder ParamValue := fun v =>
  match Decode.text v with
  | .ok s => .ok (one s)
  | .error _ =>
    match Decode.list Decode.text v with
    | .ok texts => .ok (many texts)
    | .error _ => .error (.noAlternative "ParamValue")

end ParamValue

structure ApiRequest where
  method : String
  path : String
  pathParams : Dict String
  queryParams : Dict ParamValue
  body : Json
  headers : Dict ParamValue
  deriving DecidableEq

namespace ApiRequest

def empty : ApiRequest := ⟨"", "", .empty, .empty, .null, .empty⟩

instance : Inhabited ApiRequest := ⟨empty⟩

def new (method path : String) : ApiRequest :=
  { empty with method := method, path := path }

def withPathParam (r : ApiRequest) (name value : String) : ApiRequest :=
  { r with pathParams := r.pathParams.insert name value }

def withQueryParam (r : ApiRequest) (name : String) (value : ParamValue) : ApiRequest :=
  { r with queryParams := r.queryParams.insert name value }

/-- Sets the header spelled exactly so. -/
def withHeader (r : ApiRequest) (name : String) (value : ParamValue) : ApiRequest :=
  { r with headers := r.headers.insert name value }

def withBody (r : ApiRequest) (body : Json) : ApiRequest :=
  { r with body := body }

def pathParam (r : ApiRequest) (name : String) : Option String :=
  r.pathParams.find? name

def queryParam (r : ApiRequest) (name : String) : Option String :=
  (r.queryParams.find? name).bind ParamValue.first

/-- Two names are equal up to the case of ASCII letters. -/
def sameName (a b : String) : Bool :=
  a.toLower == b.toLower

/-- The first value of the first header of a name, in any case. -/
def header (r : ApiRequest) (name : String) : Option String :=
  (r.headers.entries.find? fun h => sameName h.1 name).bind (·.2.first)

def record : Record [String, String, Dict String, Dict ParamValue, Json, Dict ParamValue] where
  description := "struct ApiRequest"
  closed := false
  fields :=
    .cons (.defaulted "method" Decode.text "" []) <|
    .cons (.defaulted "path" Decode.text "" []) <|
    .cons (.defaulted "path_params" (Decode.dict Decode.text) .empty ["pathParams"]) <|
    .cons (.defaulted "query_params" (Decode.dict ParamValue.decode) .empty ["queryParams"]) <|
    .cons (.defaulted "body" Decode.any .null []) <|
    .cons (.defaulted "headers" (Decode.dict ParamValue.decode) .empty []) .nil

def decode : Decoder ApiRequest := fun v => do
  let (method, path, pathParams, queryParams, body, headers, ()) ← record.decode .direct v
  .ok ⟨method, path, pathParams, queryParams, body, headers⟩

def encodeDict (encode : α → Json) (d : Dict α) : Json :=
  .object (d.map encode).entries

/-- The value of a request: all its fields. -/
def encode (r : ApiRequest) : Json :=
  .object [
    ("body", r.body),
    ("headers", encodeDict ParamValue.encode r.headers),
    ("method", .string r.method),
    ("path", .string r.path),
    ("path_params", encodeDict .string r.pathParams),
    ("query_params", encodeDict ParamValue.encode r.queryParams)]

end ApiRequest

end StepEngine
