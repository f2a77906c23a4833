import StepEngine.Engine.Dispatch
import StepEngine.Proofs.Members

/-!
# The request that a condition function sees

A condition function is given six members of a request. What it reads there is what the function of
the trigger reads, and nothing else of the payload has a part in it.

* `Json.under_name` : the members of an object under one name;
* `ApiRequest.decode_eq_ok_iff` : a request is read exactly when method, path and the visible fields
  are given;
* `TriggerGate.requestView_eq_ok_iff` : a view is read exactly when the visible fields are given;
* `ApiRequest.shown` : a request as a condition function sees it;
* `TriggerGate.requestView_of_decode` : a payload that holds a request shows it so;
* `TriggerGate.requestView_agrees` : the view of an object and the request in it, for all objects.
-/

namespace StepEngine

/-! ## A field with one name -/

/-- The members of an object under one name. -/
theorem Json.under_name (d : Dict Json) (name : String) :
    under (· == name) d.entries = ((d.find? name).map fun v => (name, v)).toList := by
  have hfilter {e : Dict Json} (h : d.find? name = e.find? name) :
      under (· == name) d.entries = under (· == name) e.entries :=
    SortedMap.filter_eq_of_find? (p := (· == name)) fun key hkey => by rw [beq_iff_eq.1 hkey, h]
  cases h : d.find? name with
  | none => exact hfilter (e := .empty) h
  | some v =>
    have hone := hfilter (e := ⟨[(name, v)], List.pairwise_singleton _ _⟩)
      (h.trans (List.lookup_cons_self).symm)
    rw [hone, under_cons, if_pos (beq_self_eq_true name)]
    rfl

theorem Decode.text_eq_ok_iff {v : Json} {s : String} : text v = .ok s ↔ v = .string s := by
  cases v <;> simp [text]

/-- A text that may be left out is what stands under its name, or empty. -/
theorem Field.given_text_iff {name : String} {d : Dict Json} {s : String} :
    (Field.defaulted name Decode.text "" []).Given d.entries s ↔
      (d.find? name).getD (.string "") = .string s := by
  have hnamed : (Field.defaulted name Decode.text "" []).isNamed = (· == name) :=
    funext fun key => Bool.or_false _
  have hunder := hnamed ▸ Json.under_name d name
  cases h : d.find? name with
  | none =>
    rw [h] at hunder
    rw [given_iff_of_under_nil hunder]
    constructor
    · rintro ⟨⟩
      rfl
    · rintro ⟨⟩
      rfl
  | some v =>
    rw [h] at hunder
    rw [given_iff_of_under_singleton hunder]
    exact Decode.text_eq_ok_iff

/-! ## Requests and views by their fields -/

namespace ApiRequest

def methodField : Field String := .defaulted "method" Decode.text "" []

def pathField : Field String := .defaulted "path" Decode.text "" []

/-- The fields of a request that a condition function sees. -/
def visibleFields : Fields [Dict String, Dict ParamValue, Json, Dict ParamValue] :=
  .cons (.defaulted "path_params" (Decode.dict Decode.text) .empty ["pathParams"]) <|
  .cons (.defaulted "query_params" (Decode.dict ParamValue.decode) .empty ["queryParams"]) <|
  .cons (.defaulted "body" Decode.any .null []) <|
  .cons (.defaulted "headers" (Decode.dict ParamValue.decode) .empty []) .nil

theorem knows_visibleFields (key : String) :
    visibleFields.knows key = TriggerGate.visibleMembers.contains key := by
  simp only [visibleFields, Fields.knows, Field.isNamed, Field.defaulted,
    TriggerGate.visibleMembers, List.contains_cons, List.contains_nil, Bool.or_false,
    Bool.or_assoc]

theorem not_named_of_visible {key : String}
    (h : TriggerGate.visibleMembers.contains key = true) :
    methodField.isNamed key = false ∧ pathField.isNamed key = false := by
  have hne (name : String) (hname : TriggerGate.visibleMembers.contains name = false) :
      (key == name || [].contains key) = false := by
    rw [List.contains_nil, Bool.or_false, beq_eq_false_iff_ne]
    rintro rfl
    exact Bool.false_ne_true (hname.symm.trans h)
  exact ⟨hne "method" (by decide), hne "path" (by decide)⟩

def visible (r : ApiRequest) : Values [Dict String, Dict ParamValue, Json, Dict ParamValue] :=
  (r.pathParams, r.queryParams, r.body, r.headers, ())

theorem decode_eq_ok_iff {members : List (String × Json)} {r : ApiRequest} :
    decode (.object members) = .ok r ↔
      methodField.Given members r.method ∧ pathField.Given members r.path ∧
      visibleFields.Given members r.visible := by
  have hfields : record.fields.ofMembers false members =
      .ok (r.method, r.path, r.visible) ↔ _ := Fields.ofMembers_eq_ok_iff (by decide)
  refine Iff.trans ?_ hfields
  refine Decode.bind_eq_ok_iff.trans ⟨?_, fun h => ⟨_, h, rfl⟩⟩
  rintro ⟨⟨method, path, pathParams, queryParams, body, headers, _⟩, h, heq⟩
  cases heq
  exact h

theorem given_visible_iff {members : List (String × Json)}
    {values : Values [Dict String, Dict ParamValue, Json, Dict ParamValue]} :
    visibleFields.Given (members.filter fun m => TriggerGate.visibleMembers.contains m.1) values ↔
      visibleFields.Given members values := by
  have hsame (p : String → Bool) (hp : ∀ key, p key = true → visibleFields.knows key = true) :
      Json.under p (members.filter fun m => TriggerGate.visibleMembers.contains m.1) =
        Json.under p members :=
    Json.under_filter fun key hkey => (knows_visibleFields key).symm.trans (hp key hkey)
  exact ⟨fun h => h.of_under fun p hp => (hsame p hp).symm, fun h => h.of_under hsame⟩

/-- A field whose name is not visible gets its default. -/
theorem given_hidden_iff {α : Type} {field : Field α} {members : List (String × Json)} {a : α}
    (h : ∀ key, TriggerGate.visibleMembers.contains key = true → field.isNamed key = false) :
    field.Given (members.filter fun m => TriggerGate.visibleMembers.contains m.1) a ↔
      field.default? = some a := by
  have hunder : Json.under field.isNamed
      (members.filter fun m => TriggerGate.visibleMembers.contains m.1) = [] := by
    refine List.filter_eq_nil_iff.2 fun m hm => ?_
    rw [h m.1 (List.mem_filter.1 hm).2]
    exact Bool.false_ne_true
  exact Field.given_iff_of_under_nil hunder

/-- A request as a condition function sees it: without method and path, and one that came as no
object is a body and nothing else. -/
def shown (payload : Json) (r : ApiRequest) : ApiRequest :=
  match payload with
  | .object _ => { r with method := "", path := "" }
  | body => empty.withBody body

end ApiRequest

theorem StepError.decoded_eq_ok_iff {α : Type} {answer : Except DecodeError α} {a : α} :
    decoded answer = .ok a ↔ answer = .ok a := by
  cases answer with
  | error cause => exact ⟨nofun, nofun⟩
  | ok b =>
    constructor
    · rintro ⟨⟩
      rfl
    · rintro ⟨⟩
      rfl

namespace TriggerGate

theorem requestView_eq_ok_iff {members : List (String × Json)} {r : ApiRequest} :
    requestView (.object members) = .ok r ↔
      r.method = "" ∧ r.path = "" ∧ ApiRequest.visibleFields.Given members r.visible := by
  have hempty {text : String} : some "" = some text ↔ text = "" := Option.some_inj.trans eq_comm
  rw [requestView, StepError.decoded_eq_ok_iff, ApiRequest.decode_eq_ok_iff,
    ApiRequest.given_hidden_iff fun key hkey => (ApiRequest.not_named_of_visible hkey).1,
    ApiRequest.given_hidden_iff fun key hkey => (ApiRequest.not_named_of_visible hkey).2,
    ApiRequest.given_visible_iff]
  exact and_congr hempty (and_congr_left' hempty)

theorem requestView_of_decode {payload : Json} {r : ApiRequest}
    (h : ApiRequest.decode payload = .ok r) :
    requestView payload = .ok (ApiRequest.shown payload r) := by
  cases payload with
  | object members =>
    obtain ⟨-, -, hvisible⟩ := ApiRequest.decode_eq_ok_iff.1 h
    exact requestView_eq_ok_iff.2 ⟨rfl, rfl, hvisible⟩
  | array _ => rfl
  | null | bool _ | number _ | string _ => cases h

/-! ## Objects -/

/-- The view of an object and the request in it. -/
structure ViewAgrees (d : Dict Json) : Prop where
  /-- The object holds a request exactly when its view shows the request, and what stands for its
  method and its path are the texts that it has. -/
  decoded : ∀ r, ApiRequest.decode (.object d.entries) = .ok r ↔
    requestView (.object d.entries) = .ok { r with method := "", path := "" } ∧
    (d.find? "method").getD (.string "") = .string r.method ∧
    (d.find? "path").getD (.string "") = .string r.path
  /-- Where there is no view there is no request. -/
  failed : ∀ error, requestView (.object d.entries) = .error error →
    ∃ cause, ApiRequest.decode (.object d.entries) = .error cause
  /-- The view depends on the visible members only, and so does what is wrong with it. -/
  visible : ∀ e : Dict Json, (∀ name ∈ visibleMembers, d.find? name = e.find? name) →
    requestView (.object d.entries) = requestView (.object e.entries)

/-- The view of an object is the request in it, as far as it is shown. -/
theorem requestView_agrees (d : Dict Json) : ViewAgrees d := by
  have hdecoded (r : ApiRequest) : ApiRequest.decode (.object d.entries) = .ok r ↔
      requestView (.object d.entries) = .ok { r with method := "", path := "" } ∧
      (d.find? "method").getD (.string "") = .string r.method ∧
      (d.find? "path").getD (.string "") = .string r.path := by
    rw [ApiRequest.decode_eq_ok_iff, requestView_eq_ok_iff, ApiRequest.methodField,
      ApiRequest.pathField, Field.given_text_iff, Field.given_text_iff]
    constructor
    · rintro ⟨hmethod, hpath, hvisible⟩
      exact ⟨⟨rfl, rfl, hvisible⟩, hmethod, hpath⟩
    · rintro ⟨⟨-, -, hvisible⟩, hmethod, hpath⟩
      exact ⟨hmethod, hpath, hvisible⟩
  refine ⟨hdecoded, fun error herror => ?_, fun e hsame => ?_⟩
  · cases h : ApiRequest.decode (.object d.entries) with
    | error cause => exact ⟨cause, rfl⟩
    | ok r => cases herror.symm.trans ((hdecoded r).1 h).1
  · have hmembers := SortedMap.filter_eq_of_find? (p := visibleMembers.contains) (d := d) (e := e)
      fun name hname => hsame name (List.contains_iff_mem.1 hname)
    rw [requestView, requestView, hmembers]

/-- Two objects with one view. The first has a method that is no text, so it holds no request; and
it has a member that no request has. -/
theorem requestView_agrees_beside_others :
    let d : Dict Json := .ofList
      [("body", .bool true), ("method", .ofNat 7), ("response", .string "stream handle")]
    let e : Dict Json := .ofList [("body", .bool true)]
    requestView (.object d.entries) = .ok (ApiRequest.empty.withBody (.bool true)) ∧
    requestView (.object d.entries) = requestView (.object e.entries) ∧
    (∀ r, ApiRequest.decode (.object d.entries) ≠ .ok r) ∧
    ApiRequest.decode (.object e.entries) = .ok (ApiRequest.empty.withBody (.bool true)) := by
  intro d e
  have hsame : requestView (.object d.entries) = requestView (.object e.entries) :=
    (requestView_agrees d).visible e (by decide)
  have hread : ApiRequest.decode (.object e.entries) =
      .ok (ApiRequest.empty.withBody (.bool true)) := by rfl
  refine ⟨hsame.trans (((requestView_agrees e).decoded _).1 hread).1, hsame, fun r hr => ?_, hread⟩
  have hmethod : Json.ofNat 7 = .string r.method := (((requestView_agrees d).decoded r).1 hr).2.1
  cases hmethod

end TriggerGate

end StepEngine
