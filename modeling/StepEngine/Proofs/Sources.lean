import StepEngine.Proofs.Plan
import StepEngine.Proofs.Routing
import StepEngine.Proofs.Run

/-!
# The steps that an engine shows

The source of a step is recorded under the id of its file, over the source of an earlier step of this
file.

* `Addition.latest` : of steps that were added one after the other, those that no later step of the
  same id has replaced;
* `Site.History` : steps that are added to a new engine or refused, and whatever else happens in
  between and leaves the sources of steps as they are;
* `Site.History.sources_eq` : the sources after such a history;
* `Site.ShowsLatest` : what the names of the steps and the endpoint that lists them show;
* `Site.latest_steps_are_shown` : so it is after every history.
-/

namespace StepEngine

namespace Addition

/-- The id under which the source of the step is recorded. -/
def sourceId (a : Addition) : String := (stepId a.filePath).hyphenated

/-- The source of the step under its id. -/
def entry (a : Addition) : String × StepSource := (a.sourceId, ⟨a.name, a.filePath⟩)

@[simp] theorem entry_fst (a : Addition) : a.entry.1 = a.sourceId := rfl

/-- The names of steps, ascending and each once. -/
def names (added : List Addition) : List String :=
  (SortedMap.ofList (added.map fun a => (a.name, ()))).keys

/-- The steps that have not been replaced by a later one of their id. -/
def latest : List Addition → List Addition
  | [] => []
  | a :: rest => if a.sourceId ∈ rest.map sourceId then latest rest else a :: latest rest

theorem mem_of_mem_latest {added : List Addition} {a : Addition} (h : a ∈ latest added) :
    a ∈ added := by
  induction added with
  | nil => cases h
  | cons b rest ih =>
    rw [latest] at h
    split at h
    · exact List.mem_cons_of_mem _ (ih h)
    · rcases List.mem_cons.1 h with rfl | h
      · exact List.mem_cons_self
      · exact List.mem_cons_of_mem _ (ih h)

/-- A step is among the latest when none of its id comes after it. -/
theorem mem_latest_iff {added : List Addition} {a : Addition} :
    a ∈ latest added ↔
      ∃ before after, added = before ++ a :: after ∧ ∀ b ∈ after, b.sourceId ≠ a.sourceId := by
  induction added with
  | nil => simp [latest]
  | cons b rest ih =>
    have hrest : (∃ before after, b :: rest = before ++ a :: after ∧
        ∀ c ∈ after, c.sourceId ≠ a.sourceId) ↔
        (b = a ∧ a.sourceId ∉ rest.map sourceId) ∨ a ∈ latest rest := by
      rw [ih]
      constructor
      · rintro ⟨before, after, hsplit, hafter⟩
        rcases List.cons_eq_append_iff.1 hsplit with ⟨rfl, heq⟩ | ⟨before, rfl, heq⟩
        · obtain ⟨rfl, rfl⟩ := List.cons.inj heq
          left
          refine ⟨rfl, fun hmem => ?_⟩
          obtain ⟨c, hc, hid⟩ := List.mem_map.1 hmem
          exact hafter c hc hid
        · exact .inr ⟨before, after, heq, hafter⟩
      · rintro (⟨rfl, hnot⟩ | ⟨before, after, rfl, hafter⟩)
        · refine ⟨[], rest, rfl, fun c hc hid => hnot ?_⟩
          exact List.mem_map.2 ⟨c, hc, hid⟩
        · exact ⟨b :: before, after, rfl, hafter⟩
    rw [hrest, latest]
    split
    · next hmem =>
      constructor
      · exact .inr
      · rintro (⟨rfl, hnot⟩ | h)
        · exact absurd hmem hnot
        · exact h
    · next hnot =>
      rw [List.mem_cons]
      constructor
      · rintro (rfl | h)
        · exact .inl ⟨rfl, hnot⟩
        · exact .inr h
      · rintro (⟨rfl, -⟩ | h)
        · exact .inl rfl
        · exact .inr h

/-- Each step or one of its id is among the latest. -/
theorem exists_mem_latest {added : List Addition} {a : Addition} (h : a ∈ added) :
    ∃ b ∈ latest added, b.sourceId = a.sourceId := by
  induction added generalizing a with
  | nil => cases h
  | cons c rest ih =>
    rw [latest]
    split
    · next hmem =>
      rcases List.mem_cons.1 h with rfl | h
      · obtain ⟨d, hd, hid⟩ := List.mem_map.1 hmem
        obtain ⟨b, hb, hb'⟩ := ih hd
        exact ⟨b, hb, hb'.trans hid⟩
      · exact ih h
    · rcases List.mem_cons.1 h with rfl | h
      · exact ⟨a, List.mem_cons_self, rfl⟩
      · obtain ⟨b, hb, hid⟩ := ih h
        exact ⟨b, List.mem_cons_of_mem _ hb, hid⟩

/-- No two of the latest steps have the same id. -/
theorem nodup_latest (added : List Addition) : ((latest added).map sourceId).Nodup := by
  induction added with
  | nil => exact List.nodup_nil
  | cons a rest ih =>
    rw [latest]
    split
    · exact ih
    · next hnot =>
      rw [List.map_cons, List.nodup_cons]
      refine ⟨fun hmem => hnot ?_, ih⟩
      obtain ⟨b, hb, hid⟩ := List.mem_map.1 hmem
      exact List.mem_map.2 ⟨b, mem_of_mem_latest hb, hid⟩

/-- Sources that are recorded one after the other leave those of the latest steps. -/
theorem mem_sources_iff {added : List Addition} {e : String × StepSource} :
    e ∈ (SortedMap.ofList (added.map entry)).entries ↔ e ∈ (latest added).map entry := by
  obtain ⟨id, source⟩ := e
  rw [← SortedMap.find?_eq_some_iff, SortedMap.find?_ofList, List.lookup_eq_some_iff, List.mem_map]
  constructor
  · rintro ⟨later, earlier, hsplit, hlater⟩
    have hmap : added.map entry = earlier.reverse ++ (id, source) :: later.reverse := by
      have hreverse := congrArg List.reverse hsplit
      rwa [List.reverse_reverse, List.reverse_append, List.reverse_cons, List.append_assoc,
        List.singleton_append] at hreverse
    obtain ⟨before, rest, rfl, -, hrest⟩ := List.map_eq_append_iff.1 hmap
    obtain ⟨a, after, rfl, ha, hafter⟩ := List.map_eq_cons_iff.1 hrest
    have hid : a.sourceId = id := by rw [← entry_fst, ha]
    refine ⟨a, mem_latest_iff.2 ⟨before, after, rfl, fun b hb heq => ?_⟩, ha⟩
    have hb' : b.entry ∈ later := by
      rw [← List.mem_reverse, ← hafter]
      exact List.mem_map.2 ⟨b, hb, rfl⟩
    have hne := hlater _ hb'
    rw [entry_fst, heq, hid] at hne
    exact absurd hne (by simp)
  · rintro ⟨a, ha, hentry⟩
    obtain ⟨before, after, rfl, hafter⟩ := mem_latest_iff.1 ha
    have hid : a.sourceId = id := by rw [← entry_fst, hentry]
    refine ⟨(after.map entry).reverse, (before.map entry).reverse, ?_, ?_⟩
    · rw [List.map_append, List.map_cons, hentry, List.reverse_append, List.reverse_cons,
        List.append_assoc, List.singleton_append]
    · intro e he
      obtain ⟨b, hb, rfl⟩ := List.mem_map.1 (List.mem_reverse.1 he)
      have hne := hafter b hb
      rw [entry_fst, bne_iff_ne, ← hid]
      exact hne.symm

theorem sources_perm (added : List Addition) :
    (SortedMap.ofList (added.map entry)).entries.Perm ((latest added).map entry) := by
  have hnodup {entries : List (String × StepSource)} (h : (entries.map Prod.fst).Nodup) :
      entries.Nodup := by
    unfold List.Nodup at h ⊢
    exact h.of_map Prod.fst fun _ _ hne heq => hne (congrArg Prod.fst heq)
  have hleft := hnodup (SortedMap.ofList (added.map entry)).nodup_keys
  have hright : ((latest added).map entry).Nodup := by
    refine hnodup ?_
    rw [List.map_map]
    exact nodup_latest added
  exact (List.perm_ext_iff_of_nodup hleft hright).2 fun _ => mem_sources_iff

end Addition

/-- The function that lists the steps always answers. -/
theorem EngineFunction.stepList_answers {τ : Type} (invocation : Invocation) (s : Surroundings τ)
    (within : Option Span) (p : Progress τ) :
    (stepList.invoke invocation s within p).1 =
      some (.ok (StepEndpoint.list s.engine.sources).encode) := by
  have hremark (interceptors : List Interceptor) (p : Progress τ) :
      ∃ q, remark interceptors s within p = (some (.ok ()), q) := by
    induction interceptors generalizing p with
    | nil => exact ⟨p, rfl⟩
    | cons i rest ih =>
      rw [remark]
      cases i.remark with
      | none => exact ih p
      | some text =>
        obtain ⟨q, hq⟩ := ih { p with journal := p.journal ++ [text] }
        exact ⟨q, hq⟩
  obtain ⟨q, hq⟩ := hremark s.engine.interceptors p
  rw [invoke, Run.bind_of_ok rfl, Run.bind_of_ok hq]
  rfl

/-! ## Histories -/

namespace Setup

variable {d : StepDefinition} {filePath : String} {site site' : Site}

/-- A step that is added changes nothing of the engine but the sources. -/
theorem engine_of_addStep_ok {records : List RegistrationRecord}
    (h : addStep d filePath site = (.ok records, site')) :
    site'.engine = site.engine.withSource ⟨d.config.name, filePath⟩ := by
  obtain ⟨-, -, rfl⟩ := addStep_ok_iff.1 h
  rfl

/-- A step that is refused changes nothing of the engine. -/
theorem engine_of_addStep_error {error : StepError}
    (h : addStep d filePath site = (.error error, site')) : site'.engine = site.engine := by
  rcases hends : site.transport.carryOut (d.plan filePath) with ⟨_ | cause, transport⟩
  · obtain ⟨events, hadd⟩ := addStep_of_accepted hends
    rw [hadd] at h
    cases (Prod.mk.inj h).1
  · obtain ⟨events, hadd⟩ := addStep_of_refused hends
    rw [hadd] at h
    obtain rfl := (Prod.mk.inj h).2
    rfl

end Setup

namespace Site

/-- Steps are added to a new engine, or refused, and whatever else happens in between leaves the
sources of steps as they are. -/
inductive History : List Addition → Site → Prop where
  | new (settings : Settings) (interceptors : List Interceptor) (streams : List StreamConfig)
      (transport : Recorder EngineFunction) (events : List Event) :
      History [] ⟨.new settings interceptors streams, transport, events⟩
  | added {added : List Addition} {site site' : Site} {records : List RegistrationRecord}
      (history : History added site) (a : Addition)
      (succeeds : Setup.addStep a.definition a.filePath site = (.ok records, site')) :
      History (added ++ [a]) site'
  | refused {added : List Addition} {site site' : Site} {error : StepError}
      (history : History added site) (a : Addition)
      (fails : Setup.addStep a.definition a.filePath site = (.error error, site')) :
      History added site'
  | other {added : List Addition} {site site' : Site} (history : History added site)
      (same : site'.engine.sources = site.engine.sources) : History added site'

variable {site : Site} {added : List Addition}

/-- The sources are those of the steps that were added, recorded one after the other. -/
theorem History.sources_eq (h : History added site) :
    site.engine.sources = .ofList (added.map Addition.entry) := by
  induction h with
  | new settings interceptors streams transport events => rfl
  | @added added site site' records history a succeeds ih =>
    rw [Setup.engine_of_addStep_ok succeeds, Engine.withSource, ih, SortedMap.ofList,
      SortedMap.ofList, List.map_append, List.foldl_append]
    rfl
  | @refused added site site' error history a fails ih =>
    rw [Setup.engine_of_addStep_error fails, ih]
  | @other added site site' history same ih => rw [same, ih]

theorem History.mem_stepNames_iff (h : History added site) {name : String} :
    name ∈ site.engine.stepNames ↔ ∃ a ∈ Addition.latest added, a.name = name := by
  rw [Engine.stepNames, SortedMap.mem_keys_ofList, h.sources_eq, List.map_map, SortedMap.values,
    List.map_map, List.mem_map]
  constructor
  · rintro ⟨e, he, rfl⟩
    obtain ⟨a, ha, rfl⟩ := List.mem_map.1 (Addition.mem_sources_iff.1 he)
    exact ⟨a, ha, rfl⟩
  · rintro ⟨a, ha, rfl⟩
    exact ⟨a.entry, Addition.mem_sources_iff.2 (List.mem_map.2 ⟨a, ha, rfl⟩), rfl⟩

/-! ## What is shown -/

/-- What an engine shows of the steps that were added: of those of one id the last. -/
structure ShowsLatest (site : Site) (added : List Addition) : Prop where
  /-- Names are in order, and none occurs twice. -/
  ascending : site.engine.stepNames.Pairwise (· < ·)
  names : ∀ name, name ∈ site.engine.stepNames ↔ ∃ a ∈ Addition.latest added, a.name = name
  /-- The list has one entry for each of the latest steps, in the order of their ids. -/
  listed : ∃ entries : List (String × StepSource),
    entries.Perm ((Addition.latest added).map Addition.entry) ∧
    (entries.map (·.1)).Pairwise (· < ·) ∧
    StepEndpoint.list site.engine.sources =
      .ok (.object [("steps", .array (entries.map StepEndpoint.listEntry))])
  /-- This is what the endpoint answers, whatever it is asked. -/
  answered : ∀ readFile identifiers invocation,
    (EngineFunction.stepList.invoke invocation (site.surroundings readFile identifiers) none
      (.start site.transport)).1 = some (.ok (StepEndpoint.list site.engine.sources).encode)
  /-- The names are those of all steps exactly when each is the name of one of the latest. -/
  complete_iff : site.engine.stepNames = Addition.names added ↔
    ∀ a ∈ added, ∃ b ∈ Addition.latest added, b.name = a.name
  /-- No step is forgotten unless a file has steps of different names. -/
  complete : (∀ a ∈ added, ∀ b ∈ added, a.sourceId = b.sourceId → a.name = b.name) →
    site.engine.stepNames = Addition.names added

theorem History.stepNames_eq_iff (h : History added site) :
    site.engine.stepNames = Addition.names added ↔
      ∀ a ∈ added, ∃ b ∈ Addition.latest added, b.name = a.name := by
  have hall (name : String) : name ∈ Addition.names added ↔ ∃ a ∈ added, a.name = name := by
    rw [Addition.names, SortedMap.mem_keys_ofList, List.map_map]
    exact List.mem_map
  constructor
  · intro heq a ha
    have hname : a.name ∈ site.engine.stepNames := by
      rw [heq]
      exact (hall _).2 ⟨a, ha, rfl⟩
    exact h.mem_stepNames_iff.1 hname
  · intro hlatest
    refine SortedMap.keys_eq_iff.2 fun name => ?_
    change name ∈ site.engine.stepNames ↔ name ∈ Addition.names added
    rw [h.mem_stepNames_iff, hall]
    constructor
    · rintro ⟨a, ha, rfl⟩
      exact ⟨a, Addition.mem_of_mem_latest ha, rfl⟩
    · rintro ⟨a, ha, rfl⟩
      exact hlatest a ha

/-- After every history an engine shows the latest steps, and only those. -/
theorem latest_steps_are_shown {site : Site} {added : List Addition} (h : History added site) :
    site.ShowsLatest added where
  ascending := SortedMap.pairwise_keys _
  names _ := h.mem_stepNames_iff
  listed := by
    refine ⟨site.engine.sources.entries, ?_, site.engine.sources.pairwise_keys, rfl⟩
    rw [h.sources_eq]
    exact Addition.sources_perm added
  answered readFile identifiers invocation := EngineFunction.stepList_answers invocation _ _ _
  complete_iff := h.stepNames_eq_iff
  complete hsame := by
    refine h.stepNames_eq_iff.2 fun a ha => ?_
    obtain ⟨b, hb, hid⟩ := Addition.exists_mem_latest ha
    exact ⟨b, hb, hsame b (Addition.mem_of_mem_latest hb) a ha hid⟩

/-- A transport that refuses nothing takes all steps. -/
theorem History.extend (h : History added site) (hnone : site.transport.rejections = .empty)
    (more : List Addition) : ∃ site', History (added ++ more) site' := by
  induction more generalizing added site with
  | nil => exact ⟨site, by rwa [List.append_nil]⟩
  | cons a more ih =>
    have haccepts : ∀ id ∈ a.definition.config.ids a.filePath, site.transport.Accepts id := by
      intro id _
      rw [Recorder.Accepts, hnone]
      rfl
    have hadd := Setup.addStep_ok_iff.2 ⟨rfl, haccepts, rfl⟩
    obtain ⟨site', hmore⟩ := ih (h.added a hadd) hnone
    rw [List.append_assoc, List.singleton_append] at hmore
    exact ⟨site', hmore⟩

/-- Two steps in files of their own, then a new version of the first. -/
def versions : List Addition :=
  [⟨onTopic "A" "t" "first" (by decide), "steps/a.rs"⟩,
    ⟨onTopic "B" "t" "second" (by decide), "steps/b.rs"⟩,
    ⟨onTopic "A" "t" "third" (by decide), "steps/a.rs"⟩]

theorem latest_of_versions_are_shown :
    (Addition.latest versions).map Addition.name = ["B", "A"] ∧
      ∃ site, History versions site ∧ site.ShowsLatest versions := by
  have hstart := History.new .standard [] [] .empty []
  obtain ⟨site, hsite⟩ := hstart.extend rfl versions
  exact ⟨by decide +kernel, site, hsite, latest_steps_are_shown hsite⟩

/-- The second of two steps in one file takes the place of the first: only its name is left, and only
its entry in the list, though both have been added. -/
theorem second_step_of_file_replaces_first :
    let added : List Addition :=
      [⟨onTopic "A" "t" "first" (by decide), "steps/a.rs"⟩,
        ⟨onTopic "B" "t" "second" (by decide), "steps/a.rs"⟩]
    ∃ site, History added site ∧ site.engine.stepNames = ["B"] ∧
      Addition.names added = ["A", "B"] ∧
      site.engine.sources.entries =
        [((stepId "steps/a.rs").hyphenated, ⟨"B", "steps/a.rs"⟩)] := by
  intro added
  have hstart := History.new .standard [] [] .empty []
  obtain ⟨site, hsite⟩ := hstart.extend rfl added
  have hsame (id : String) (earlier later : StepSource) :
      (SortedMap.ofList [(id, earlier), (id, later)]).entries = [(id, later)] := by
    change SortedMap.insertEntry id later [(id, earlier)] = _
    rw [SortedMap.insertEntry, if_neg Std.lt_irrefl, if_pos rfl]
  have hentries : site.engine.sources.entries =
      [((stepId "steps/a.rs").hyphenated, ⟨"B", "steps/a.rs"⟩)] := by
    rw [hsite.sources_eq]
    exact hsame _ _ _
  refine ⟨site, hsite, ?_, by decide, hentries⟩
  rw [Engine.stepNames, SortedMap.values, hentries]
  rfl

end Site

end StepEngine
