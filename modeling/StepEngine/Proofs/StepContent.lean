import StepEngine.Engine.StepEndpoint
import StepEngine.Proofs.Sources
import StepEngine.Proofs.UuidText

/-!
# What the endpoint of a step answers, and what it reads

A request names a step by any text of its id. It is answered with the file under which the step was
added last, and no request leads to another file.

* `Site.History.selected_eq_some_iff`, `selected_eq_none_iff` : the source that a text selects after
  steps were added;
* `StepEndpoint.contentIn` : the response with the source of a step, in a file system;
* `StepEndpoint.content_apply`, `content_congr` : the endpoint answers so, and reads two paths;
* `StepEndpoint.Answers` : how a request is answered, by the id that it gives;
* `Site.ServesSteps` : what the list and the endpoint of a site answer; `Site.steps_are_served` : so
  it is after every history.
-/

namespace StepEngine

/-! ## Sources by their ids -/

namespace Addition

def source (a : Addition) : StepSource := ⟨a.name, a.filePath⟩

/-- A text of the id of a step is one of the id of a latest step. -/
theorem exists_mem_latest_spells {added : List Addition} {a : Addition} (ha : a ∈ added)
    {id : String} (h : (stepId a.filePath).Spells id) :
    ∃ b ∈ latest added, (stepId b.filePath).Spells id := by
  obtain ⟨b, hb, hsame⟩ := exists_mem_latest ha
  have hid : stepId b.filePath = stepId a.filePath := Uuid.hyphenated_injective hsame
  rw [← hid] at h
  exact ⟨b, hb, h⟩

end Addition

namespace Site.History

variable {site : Site} {added : List Addition} {u : Uuid} {id : String} {source : StepSource}

theorem source?_eq_some_iff (h : History added site) :
    site.engine.source? u = some source ↔
      ∃ a ∈ Addition.latest added, stepId a.filePath = u ∧ a.source = source := by
  rw [Engine.source?, SortedMap.find?_eq_some_iff, h.sources_eq, Addition.mem_sources_iff,
    List.mem_map]
  constructor
  · rintro ⟨a, ha, hentry⟩
    obtain ⟨hid, hsource⟩ := Prod.mk.inj hentry
    exact ⟨a, ha, Uuid.hyphenated_injective hid, hsource⟩
  · rintro ⟨a, ha, rfl, rfl⟩
    exact ⟨a, ha, rfl⟩

/-- A text selects the source that was recorded last under the id that it spells. -/
theorem selected_eq_some_iff (h : History added site) :
    (Uuid.parse? id).bind site.engine.source? = some source ↔
      ∃ a ∈ Addition.latest added, (stepId a.filePath).Spells id ∧ a.source = source := by
  rw [Option.bind_eq_some_iff]
  constructor
  · rintro ⟨u, hu, hsource⟩
    obtain ⟨a, ha, rfl, ha'⟩ := h.source?_eq_some_iff.1 hsource
    exact ⟨a, ha, Uuid.parse?_eq_some_iff.1 hu, ha'⟩
  · rintro ⟨a, ha, hspells, hsource⟩
    exact ⟨_, hspells.parse?, h.source?_eq_some_iff.2 ⟨a, ha, rfl, hsource⟩⟩

/-- A text selects nothing when it spells the id of no step. -/
theorem selected_eq_none_iff (h : History added site) :
    (Uuid.parse? id).bind site.engine.source? = none ↔
      ∀ a ∈ added, ¬(stepId a.filePath).Spells id := by
  rw [Option.eq_none_iff_forall_ne_some]
  constructor
  · intro hnone a ha hspells
    obtain ⟨b, hb, hspells'⟩ := Addition.exists_mem_latest_spells ha hspells
    exact hnone b.source (h.selected_eq_some_iff.2 ⟨b, hb, hspells', rfl⟩)
  · intro hnot source hsome
    obtain ⟨a, ha, hspells, -⟩ := h.selected_eq_some_iff.1 hsome
    exact hnot a (Addition.mem_of_mem_latest ha) hspells

end Site.History

/-! ## Files -/

namespace Run

variable {τ α : Type} {s : Surroundings τ} {within : Option Span} {p : Progress τ} {path : String}
  {next : Except FileFault String → Run τ α}

/-- A file that is there for a run, with a text or a fault. -/
theorem readFile_bind_of_some {text : Except FileFault String} (h : s.readFile path = some text) :
    (readFile path).bind next s within p = next text s within p := by
  have hread : readFile path s within p = (some (.ok text), p) := by
    rw [readFile, h]
    rfl
  exact bind_of_ok hread

/-- Two file systems are the same for a run when its file is the same in both and they are the same
for what comes after it. -/
theorem readFile_bind_congr {read : String → Option (Except FileFault String)}
    (h : s.readFile path = read path)
    (hnext : ∀ text, next text s within p = next text { s with readFile := read } within p) :
    (readFile path).bind next s within p =
      (readFile path).bind next { s with readFile := read } within p := by
  cases htext : read path with
  | none =>
    have hleft : readFile path s within p = (none, p) := by
      rw [readFile, h, htext]
      rfl
    have hright : readFile path { s with readFile := read } within p = (none, p) := by
      simp only [readFile, htext, Option.map_none]
    rw [bind_of_dropped hleft, bind_of_dropped hright]
  | some text =>
    rw [htext] at h
    rw [readFile_bind_of_some h, hnext text]
    exact (readFile_bind_of_some htext).symm

end Run

/-! ## Responses -/

namespace StepEndpoint

variable {τ : Type} {s : Surroundings τ} {within : Option Span} {p : Progress τ}
  {files : String → Except FileFault String} {request : ApiRequest} {id : String}
  {source : StepSource}

/-- The tutorial of a source, in a file system. -/
def featuresIn (files : String → Except FileFault String) (filePath : String) : Json :=
  match files (featuresPath filePath) with
  | .error _ => .array []
  | .ok text =>
    match Json.read text with
    | .ok v => v
    | .error _ => .array []

/-- The response with the source of a step, in a file system. -/
def contentIn (files : String → Except FileFault String) (id filePath : String) : ApiResponse :=
  match files filePath with
  | .error fault => failure 500 ("Failed to read step: " ++ fault.message)
  | .ok text => .ok (.object [("content", .string text), ("features", featuresIn files filePath),
      ("id", .string id)])

theorem status_contentIn (files : String → Except FileFault String) (id filePath : String) :
    (contentIn files id filePath).status = 200 ∨ (contentIn files id filePath).status = 500 := by
  rw [contentIn]
  cases files filePath with
  | ok text => exact .inl rfl
  | error fault => exact .inr rfl

theorem features_apply (hfiles : ∀ path, s.readFile path = some (files path)) (filePath : String) :
    ∃ q, features filePath s within p = (some (.ok (featuresIn files filePath)), q) := by
  rw [features, Run.readFile_bind_of_some (hfiles _), featuresIn]
  cases files (featuresPath filePath) with
  | error fault => exact ⟨_, rfl⟩
  | ok text =>
    simp only
    cases Json.read text with
    | ok v => exact ⟨_, rfl⟩
    | error cause => exact ⟨_, rfl⟩

theorem content_apply (hfiles : ∀ path, s.readFile path = some (files path)) :
    ∃ q, content id source s within p =
      (some (.ok (contentIn files id source.filePath)), q) := by
  rw [content, Run.readFile_bind_of_some (hfiles _), contentIn]
  cases files source.filePath with
  | error fault => exact ⟨_, rfl⟩
  | ok text =>
    have hfeatures : ∃ q, features source.filePath s within p =
        (some (.ok (featuresIn files source.filePath)), q) := features_apply hfiles _
    obtain ⟨q, hq⟩ := hfeatures
    exact ⟨q, Run.bind_of_ok hq⟩

/-! ## What is read -/

variable {read : String → Option (Except FileFault String)}

theorem features_congr {filePath : String}
    (h : s.readFile (featuresPath filePath) = read (featuresPath filePath)) :
    features filePath s within p = features filePath { s with readFile := read } within p := by
  refine Run.readFile_bind_congr h fun text => ?_
  cases text with
  | error fault => rfl
  | ok text =>
    simp only
    cases Json.read text <;> rfl

/-- The source of a step depends on two paths only. -/
theorem content_congr (hsource : s.readFile source.filePath = read source.filePath)
    (hfeatures : s.readFile (featuresPath source.filePath) = read (featuresPath source.filePath)) :
    content id source s within p = content id source { s with readFile := read } within p := by
  refine Run.readFile_bind_congr hsource fun text => ?_
  cases text with
  | error fault => rfl
  | ok text =>
    simp only [Run.bind, features_congr hfeatures]
    rfl

/-! ## Requests -/

/-- The request gives no id, or an empty one. -/
def LacksId (request : ApiRequest) : Prop :=
  request.pathParam "stepId" = none ∨ request.pathParam "stepId" = some ""

theorem not_lacksId (hid : request.pathParam "stepId" = some id) (hne : id ≠ "") :
    ¬LacksId request := by
  intro h
  rw [LacksId, hid] at h
  rcases h with h | h
  · cases h
  · exact hne (Option.some.inj h)

theorem get_of_lacksId (h : LacksId request) :
    get request = (Run.done (failure 400 "stepId is required") : Run τ ApiResponse) := by
  rcases h with h | h
  · rw [get, h]
  · rw [get, h]
    rfl

/-- A request that gives an id is answered by the source that the id selects. -/
theorem get_of_id (hid : request.pathParam "stepId" = some id) (hne : id ≠ "") :
    (get request : Run τ ApiResponse) = Run.engine.bind fun engine =>
      match (Uuid.parse? id).bind engine.source? with
      | none => Run.done (failure 404 "Step not found")
      | some source => content id source := by
  unfold get
  split
  · next h => exact absurd (.inl h) (not_lacksId hid hne)
  · next h => exact absurd (.inr h) (not_lacksId hid hne)
  · next h =>
    rw [hid] at h
    obtain rfl := Option.some.inj h
    rfl

theorem get_of_unknown (hid : request.pathParam "stepId" = some id) (hne : id ≠ "")
    (hnone : (Uuid.parse? id).bind s.engine.source? = none) :
    get request s within p = (some (.ok (failure 404 "Step not found")), p) := by
  have hengine : Run.engine s within p = (some (.ok s.engine), p) := rfl
  rw [get_of_id hid hne, Run.bind_of_ok hengine, hnone]
  rfl

theorem get_of_selected (hid : request.pathParam "stepId" = some id) (hne : id ≠ "")
    (hsome : (Uuid.parse? id).bind s.engine.source? = some source) :
    get request s within p = content id source s within p := by
  have hengine : Run.engine s within p = (some (.ok s.engine), p) := rfl
  rw [get_of_id hid hne, Run.bind_of_ok hengine, hsome]

/-- The empty text spells no identifier. -/
theorem ne_empty_of_spells {u : Uuid} (h : u.Spells id) : id ≠ "" := by
  rintro rfl
  have hread := h.parse?
  cases hread

/-- The request gives no id, or an id of no step, or that of a step. -/
theorem request_cases (added : List Addition) (request : ApiRequest) :
    LacksId request ∨ ∃ id, request.pathParam "stepId" = some id ∧ id ≠ "" ∧
      ((∀ a ∈ added, ¬(stepId a.filePath).Spells id) ∨
        ∃ a ∈ Addition.latest added, (stepId a.filePath).Spells id) := by
  by_cases hlacks : LacksId request
  · exact .inl hlacks
  right
  rw [LacksId, not_or] at hlacks
  obtain ⟨id, hid⟩ := Option.ne_none_iff_exists'.1 hlacks.1
  have hne : id ≠ "" := by
    rintro rfl
    exact hlacks.2 hid
  refine ⟨id, hid, hne, ?_⟩
  by_cases hall : ∀ a ∈ added, ¬(stepId a.filePath).Spells id
  · exact .inl hall
  · right
    simp only [not_forall, not_not] at hall
    obtain ⟨a, ha, hspells⟩ := hall
    exact Addition.exists_mem_latest_spells ha hspells

/-- How a request is answered, after steps were added, in a file system. -/
structure Answers (added : List Addition) (files : String → Except FileFault String)
    (request : ApiRequest) (response : ApiResponse) : Prop where
  lacksId_iff : response.status = 400 ↔ LacksId request
  /-- What is given is no text of the id of a step. -/
  unknown_iff : response.status = 404 ↔
    ∃ id, request.pathParam "stepId" = some id ∧ id ≠ "" ∧
      ∀ a ∈ added, ¬(stepId a.filePath).Spells id
  /-- Otherwise the answer is made of the file of the last step that was added under the id. -/
  content : response.status ≠ 400 → response.status ≠ 404 →
    ∃ id, ∃ a ∈ Addition.latest added, request.pathParam "stepId" = some id ∧
      (stepId a.filePath).Spells id ∧ response = contentIn files id a.filePath

theorem answers_of_lacksId {added : List Addition} (h : LacksId request) :
    Answers added files request (failure 400 "stepId is required") where
  lacksId_iff := ⟨fun _ => h, fun _ => rfl⟩
  unknown_iff := by
    refine ⟨fun hstatus => absurd hstatus (by decide), ?_⟩
    rintro ⟨id, hid, hne, -⟩
    exact absurd h (not_lacksId hid hne)
  content h400 _ := absurd rfl h400

theorem answers_of_unknown {added : List Addition} (hid : request.pathParam "stepId" = some id)
    (hne : id ≠ "") (hnot : ∀ a ∈ added, ¬(stepId a.filePath).Spells id) :
    Answers added files request (failure 404 "Step not found") where
  lacksId_iff :=
    ⟨fun hstatus => absurd hstatus (by decide), fun h => absurd h (not_lacksId hid hne)⟩
  unknown_iff := ⟨fun _ => ⟨id, hid, hne, hnot⟩, fun _ => rfl⟩
  content _ h404 := absurd rfl h404

theorem answers_of_spells {added : List Addition} {a : Addition} (ha : a ∈ Addition.latest added)
    (hid : request.pathParam "stepId" = some id) (hspells : (stepId a.filePath).Spells id) :
    Answers added files request (contentIn files id a.filePath) := by
  have hother (status : UInt16) (hne : ¬(status = 200 ∨ status = 500)) :
      (contentIn files id a.filePath).status ≠ status := by
    intro h
    have hstatus := status_contentIn files id a.filePath
    rw [h] at hstatus
    exact hne hstatus
  have hid' := not_lacksId hid (ne_empty_of_spells hspells)
  constructor
  · exact ⟨fun h => absurd h (hother 400 (by decide)), fun h => absurd h hid'⟩
  · refine ⟨fun h => absurd h (hother 404 (by decide)), ?_⟩
    rintro ⟨other, hother, -, hnot⟩
    rw [hid] at hother
    obtain rfl := Option.some.inj hother
    exact absurd hspells (hnot a (Addition.mem_of_mem_latest ha))
  · exact fun _ _ => ⟨id, a, ha, hid, hspells, rfl⟩

end StepEndpoint

/-! ## Sites -/

namespace Site

/-- A request for the source of a step is answered in this way, whatever the transport. -/
def Responds (site : Site) (files : String → Except FileFault String) (request : ApiRequest)
    (response : ApiResponse) : Prop :=
  ∀ (τ : Type) (s : Surroundings τ) (within : Option Span) (p : Progress τ),
    s.engine = site.engine → (∀ path, s.readFile path = some (files path)) →
      ∃ q, StepEndpoint.get request s within p = (some (.ok response), q)

/-- What the list of steps and the endpoint of a step answer after steps were added. -/
structure ServesSteps (site : Site) (added : List Addition) : Prop where
  /-- The id of each entry of the list finds the source of this entry. -/
  listed : ∃ items : List Json,
    StepEndpoint.list site.engine.sources = .ok (.object [("steps", .array items)]) ∧
    ∀ item ∈ items, ∃ id source, item = StepEndpoint.listEntry (id, source) ∧
      (Uuid.parse? id).bind site.engine.source? = some source ∧
      ∀ files request, request.pathParam "stepId" = some id →
        ∃ response, site.Responds files request response ∧
          response = StepEndpoint.contentIn files id source.filePath ∧
          (response.status = 200 ∨ response.status = 500)
  answered : ∀ files request, ∃ response,
    site.Responds files request response ∧ StepEndpoint.Answers added files request response
  /-- A request depends only on the file of the step that it names and on its tutorial. -/
  reads : ∀ (τ : Type) (s : Surroundings τ) (within : Option Span) (p : Progress τ)
    (read : String → Option (Except FileFault String)) (request : ApiRequest),
    s.engine = site.engine →
    (∀ id, request.pathParam "stepId" = some id →
      ∀ a ∈ Addition.latest added, (stepId a.filePath).Spells id →
        s.readFile a.filePath = read a.filePath ∧
        s.readFile (StepEndpoint.featuresPath a.filePath) =
          read (StepEndpoint.featuresPath a.filePath)) →
    StepEndpoint.get request s within p =
      StepEndpoint.get request { s with readFile := read } within p

variable {site : Site} {added : List Addition}

/-- A request for a text of an id is answered with the file of the last step of this id. -/
theorem History.responds_of_spells (h : History added site) {a : Addition}
    (ha : a ∈ Addition.latest added) {request : ApiRequest} {id : String}
    (hid : request.pathParam "stepId" = some id) (hspells : (stepId a.filePath).Spells id)
    (files : String → Except FileFault String) :
    site.Responds files request (StepEndpoint.contentIn files id a.filePath) := by
  intro τ s within p hengine hfiles
  have hselected : (Uuid.parse? id).bind s.engine.source? = some a.source := by
    rw [hengine]
    exact h.selected_eq_some_iff.2 ⟨a, ha, hspells, rfl⟩
  rw [StepEndpoint.get_of_selected hid (StepEndpoint.ne_empty_of_spells hspells) hselected]
  have hcontent : ∃ q, StepEndpoint.content id a.source s within p =
      (some (.ok (StepEndpoint.contentIn files id a.source.filePath)), q) :=
    StepEndpoint.content_apply hfiles
  exact hcontent

/-- After every history the list and the endpoint answer so. -/
theorem steps_are_served {site : Site} {added : List Addition} (h : History added site) :
    site.ServesSteps added where
  listed := by
    refine ⟨site.engine.sources.entries.map StepEndpoint.listEntry, rfl, fun item hitem => ?_⟩
    obtain ⟨⟨id, source⟩, hentry, rfl⟩ := List.mem_map.1 hitem
    rw [h.sources_eq, Addition.mem_sources_iff] at hentry
    obtain ⟨a, ha, hentry⟩ := List.mem_map.1 hentry
    obtain ⟨rfl, rfl⟩ := Prod.mk.inj hentry
    have hspells := (stepId a.filePath).spells_hyphenated
    refine ⟨_, _, rfl, h.selected_eq_some_iff.2 ⟨a, ha, hspells, rfl⟩, fun files request hid => ?_⟩
    exact ⟨_, h.responds_of_spells ha hid hspells files, rfl,
      StepEndpoint.status_contentIn files _ a.filePath⟩
  answered files request := by
    rcases StepEndpoint.request_cases added request with
      hlacks | ⟨id, hid, hne, hnot | ⟨a, ha, hspells⟩⟩
    · refine ⟨_, fun τ s within p _ _ => ?_, StepEndpoint.answers_of_lacksId hlacks⟩
      rw [StepEndpoint.get_of_lacksId hlacks]
      exact ⟨p, rfl⟩
    · refine ⟨_, fun τ s within p hengine _ => ?_, StepEndpoint.answers_of_unknown hid hne hnot⟩
      rw [← h.selected_eq_none_iff, ← hengine] at hnot
      exact ⟨p, StepEndpoint.get_of_unknown hid hne hnot⟩
    · exact ⟨_, h.responds_of_spells ha hid hspells files,
        StepEndpoint.answers_of_spells ha hid hspells⟩
  reads τ s within p read request hengine hread := by
    rcases StepEndpoint.request_cases added request with
      hlacks | ⟨id, hid, hne, hnot | ⟨a, ha, hspells⟩⟩
    · rw [StepEndpoint.get_of_lacksId hlacks]
      rfl
    · rw [← h.selected_eq_none_iff, ← hengine] at hnot
      have hright : StepEndpoint.get request { s with readFile := read } within p = _ :=
        StepEndpoint.get_of_unknown hid hne hnot
      rw [StepEndpoint.get_of_unknown hid hne hnot, hright]
    · have hselected := h.selected_eq_some_iff.2 ⟨a, ha, hspells, rfl⟩
      rw [← hengine] at hselected
      obtain ⟨hsource, hfeatures⟩ := hread id hid a ha hspells
      have hright : StepEndpoint.get request { s with readFile := read } within p = _ :=
        StepEndpoint.get_of_selected hid hne hselected
      rw [StepEndpoint.get_of_selected hid hne hselected, hright]
      exact StepEndpoint.content_congr hsource hfeatures

def shelf (path : String) : Except FileFault String :=
  if path = "steps/a.rs" then .ok "fn main() {}" else .error .missing

def asking (id : String) : ApiRequest := (ApiRequest.new "GET" "").withPathParam "stepId" id

/-- A request by the id of a step in capitals, one by what is no id, and one by nothing. -/
theorem versions_are_served : ∃ site, History versions site ∧ site.ServesSteps versions ∧
    site.Responds shelf (asking "39A12997463356CB8DDBB0BD6CD916D8")
      (.ok (.object [("content", .string "fn main() {}"), ("features", .array []),
        ("id", .string "39A12997463356CB8DDBB0BD6CD916D8")])) ∧
    (∃ response, site.Responds shelf (asking "steps/a.rs") response ∧ response.status = 404) ∧
    ∃ response, site.Responds shelf (asking "") response ∧ response.status = 400 := by
  have hstart := History.new .standard [] [] .empty []
  obtain ⟨site, hsite⟩ := hstart.extend rfl versions
  have hserved := steps_are_served hsite
  refine ⟨site, hsite, hserved, ?_, ?_, ?_⟩
  · obtain ⟨response, hresponds, hanswers⟩ :=
      hserved.answered shelf (asking "39A12997463356CB8DDBB0BD6CD916D8")
    have hspells : (stepId "steps/a.rs").Spells "39A12997463356CB8DDBB0BD6CD916D8" :=
      Uuid.parse?_eq_some_iff.1 (by decide +kernel)
    have h400 : response.status ≠ 400 := fun h =>
      StepEndpoint.not_lacksId rfl (by decide) (hanswers.lacksId_iff.1 h)
    have h404 : response.status ≠ 404 := by
      intro h
      obtain ⟨id, hid, -, hnone⟩ := hanswers.unknown_iff.1 h
      obtain rfl := Option.some.inj hid
      exact hnone _ List.mem_cons_self hspells
    obtain ⟨id, a, ha, hid, hspells', rfl⟩ := hanswers.content h400 h404
    obtain rfl := Option.some.inj hid
    have hsame : stepId a.filePath = stepId "steps/a.rs" :=
      Option.some.inj (hspells'.parse?.symm.trans hspells.parse?)
    have hfile : ∀ a ∈ Addition.latest versions,
        stepId a.filePath = stepId "steps/a.rs" → a.filePath = "steps/a.rs" := by decide +kernel
    rw [hfile a ha hsame] at hresponds
    exact hresponds
  · obtain ⟨response, hresponds, hanswers⟩ := hserved.answered shelf (asking "steps/a.rs")
    refine ⟨response, hresponds, hanswers.unknown_iff.2 ⟨"steps/a.rs", rfl, by decide, ?_⟩⟩
    intro a _ hspells
    have hread : Uuid.parse? "steps/a.rs" = none := by decide +kernel
    cases hread.symm.trans hspells.parse?
  · obtain ⟨response, hresponds, hanswers⟩ := hserved.answered shelf (asking "")
    exact ⟨response, hresponds, hanswers.lacksId_iff.2 (.inr rfl)⟩

end Site

end StepEngine
