import StepEngine.Request
/-!
# HTTP responses

* `ApiResponse` : a status, headers and perhaps a body;
* `ApiResponse.decode`, `encode` : a response as a value; no headers and no body are left out, and
  a body that is `null` is read as none.
-/

namespace StepEngine

structure ApiResponse where
  status : UInt16
  headers : Dict String
  body : Option Json
  deriving DecidableEq

namespace ApiResponse

def new (status : UInt16) : ApiResponse := ⟨status, .empty, none⟩

instance : Inhabited ApiResponse := ⟨new 200⟩

def withBody (r : ApiResponse) (body : Json) : ApiResponse :=
  { r with body := some body }

def withHeader (r : ApiResponse) (name value : String) : ApiResponse :=
  { r with headers := r.headers.insert name value }

def json (status : UInt16) (body : Json) : ApiResponse := (new status).withBody body

/-- The response with a body and status 200. -/
def ok (body : Json) : ApiResponse := json 200 body

def noContent : ApiResponse := new 204

/-- A status from 200 to 299. -/
def isSuccess (r : ApiResponse) : Bool :=
  200 ≤ r.status && r.status < 300

def record : Record [UInt16, Dict String, Option Json] where
  description := "struct ApiResponse"
  closed := false
  fields :=
    .cons (.required "status_code" Decode.word16 ["status"]) <|
    .cons (.defaulted "headers" (Decode.dict Decode.text) .empty []) <|
    .cons (.optional "body" Decode.any []) .nil

def decode : Decoder ApiResponse := fun v => do
  let (status, headers, body, ()) ← record.decode .direct v
  .ok ⟨status, headers, body⟩

def encode (r : ApiResponse) : Json :=
  .object (
    (r.body.map fun b => ("body", b)).toList ++
    (if r.headers.isEmpty then [] else [("headers", ApiRequest.encodeDict .string r.headers)]) ++
    [("status_code", .ofNat r.status.toNat)])

end ApiResponse

end StepEngine
