import Mathlib.Data.List.TakeWhile
import StepEngine.Proofs.Registration
import StepEngine.Proofs.Shadow

/-!
# What a registration says about its trigger

A registration takes the method and the path, the topic, the expression, or the names of a stream
from its trigger. All of it can be read back, except that a path comes without the slashes at its
start, however many there are.

* `Trigger.route` : what a trigger listens to;
* `Trigger.RegisteredAs` : what a configuration without problems registers for a trigger;
* `TriggerRegistration.SameEntries` : the transport is told the same, apart from metadata and
  conditions (`RegistrationRecord.sameEntries_iff`);
* `slashed` : a text after slashes; `KindConfig.dropSlashes_eq_iff` : which paths become the same;
* `Route.Merges` : routes that the transport cannot tell apart;
* `Trigger.HasOneSlash` : no path with two slashes at its start;
* `Trigger.registration_tells_route` : registrations with the same entries are those of routes that
  merge, and without further slashes at the starts of paths these are the same routes.
-/

namespace StepEngine

/-! ## Routes -/

/-- What a trigger listens to. -/
inductive Route where
  | http (method : HttpMethod) (path : String)
  | queue (topic : String)
  | cron (expression : String)
  | state
  | stream (streamName : String) (groupId itemId : Option String)
  deriving DecidableEq

def Trigger.route : Trigger → Route
  | http t => .http t.method t.path
  | queue t => .queue t.topic
  | cron t => .cron t.expression
  | state _ => .state
  | stream t => .stream t.streamName t.groupId t.itemId

/-- A configuration without problems has the trigger, and this is what it registers for it. -/
def Trigger.RegisteredAs (t : Trigger) (g : TriggerRegistration) : Prop :=
  ∃ (c : StepConfig) (filePath : String) (i : Nat) (r : RegistrationRecord), c.problems = [] ∧
    c.triggers[i]? = some t ∧ (c.registrations filePath)[i]? = some r ∧
    g = r.toTriggerRegistration

/-- The transport is told the same: the kind and all entries but metadata and condition. -/
def TriggerRegistration.SameEntries (g h : TriggerRegistration) : Prop :=
  g.kind = h.kind ∧ ∀ key, key ≠ "metadata" → key ≠ RegistrationRecord.conditionKey →
    g.config.find? key = h.config.find? key

/-! ## Entries of a registration -/

namespace KindConfig

def valueOf? (k : KindConfig) (key : String) : Option Json :=
  k.members.reverse.lookup key

theorem valueOf_apiPath (apiPath : String) (method : HttpMethod) :
    (http apiPath method).valueOf? "api_path" = some (.string apiPath) := rfl

theorem valueOf_httpMethod (apiPath : String) (method : HttpMethod) :
    (http apiPath method).valueOf? "http_method" = some method.encode := rfl

theorem valueOf_streamName (streamName : String) (groupId itemId : Option String) :
    (stream streamName groupId itemId).valueOf? "stream_name" = some (.string streamName) := by
  cases groupId <;> cases itemId <;> rfl

theorem valueOf_groupId (streamName : String) (groupId itemId : Option String) :
    (stream streamName groupId itemId).valueOf? "group_id" = groupId.map .string := by
  cases groupId <;> cases itemId <;> rfl

theorem valueOf_itemId (streamName : String) (groupId itemId : Option String) :
    (stream streamName groupId itemId).valueOf? "item_id" = itemId.map .string := by
  cases groupId <;> cases itemId <;> rfl

theorem map_string_inj {a b : Option String} (h : a.map Json.string = b.map Json.string) : a = b :=
  Option.map_injective (fun _ _ => Json.string.inj) h

theorem encode_method_inj {m n : HttpMethod} (h : m.encode = n.encode) : m = n := by
  cases m <;> cases n <;> first | rfl | exact absurd (Json.string.inj h) (by decide)

def keys : List String :=
  ["api_path", "http_method", "topic", "expression", "stream_name", "group_id", "item_id"]

/-- A kind is known from its entries. -/
theorem eq_of_entries {k l : KindConfig} (hkind : k.kind = l.kind)
    (h : ∀ key ∈ keys, k.valueOf? key = l.valueOf? key) : k = l := by
  cases k with
  | http apiPath method =>
    cases l with
    | http apiPath' method' =>
      have hpath := h "api_path" (by decide)
      have hmethod := h "http_method" (by decide)
      rw [valueOf_apiPath, valueOf_apiPath] at hpath
      rw [valueOf_httpMethod, valueOf_httpMethod] at hmethod
      rw [Json.string.inj (Option.some.inj hpath), encode_method_inj (Option.some.inj hmethod)]
    | _ => cases hkind
  | queue topic =>
    cases l with
    | queue topic' =>
      have htopic : some (Json.string topic) = some (.string topic') := h "topic" (by decide)
      rw [Json.string.inj (Option.some.inj htopic)]
    | _ => cases hkind
  | cron expression =>
    cases l with
    | cron expression' =>
      have hexpression : some (Json.string expression) = some (.string expression') :=
        h "expression" (by decide)
      rw [Json.string.inj (Option.some.inj hexpression)]
    | _ => cases hkind
  | state =>
    cases l with
    | state => rfl
    | _ => cases hkind
  | stream streamName groupId itemId =>
    cases l with
    | stream streamName' groupId' itemId' =>
      have hname := h "stream_name" (by decide)
      have hgroup := h "group_id" (by decide)
      have hitem := h "item_id" (by decide)
      rw [valueOf_streamName, valueOf_streamName] at hname
      rw [valueOf_groupId, valueOf_groupId] at hgroup
      rw [valueOf_itemId, valueOf_itemId] at hitem
      rw [Json.string.inj (Option.some.inj hname), map_string_inj hgroup, map_string_inj hitem]
    | _ => cases hkind

end KindConfig

namespace RegistrationRecord

/-- All entries but metadata and condition come from the kind. -/
theorem find?_entry (r : RegistrationRecord) {key : String} (hmetadata : key ≠ "metadata")
    (hcondition : key ≠ conditionKey) :
    r.toTriggerRegistration.config.find? key = r.kindConfig.valueOf? key := by
  change (SortedMap.ofList r.members).find? key = _
  rw [SortedMap.find?_ofList, members, List.reverse_append, List.reverse_append]
  -- later members win, so condition and metadata are passed over before the kind is asked
  have hrest : List.lookup key (("metadata", r.metadata) :: r.kindConfig.members.reverse) =
      r.kindConfig.valueOf? key := by
    rw [SortedMap.lookup_cons_eq, if_neg hmetadata]
    rfl
  cases r.conditionId with
  | none => exact hrest
  | some id =>
    change List.lookup key ((conditionKey, Json.string id) :: _) = _
    rw [SortedMap.lookup_cons_eq, if_neg hcondition]
    exact hrest

theorem sameEntries_iff (r s : RegistrationRecord) :
    r.toTriggerRegistration.SameEntries s.toTriggerRegistration ↔
      r.kindConfig = s.kindConfig := by
  constructor
  · rintro ⟨hkind, hentries⟩
    refine KindConfig.eq_of_entries hkind ?_
    intro key hkey
    have hmetadata : key ≠ "metadata" := by
      rintro rfl
      revert hkey
      decide
    have hcondition : key ≠ conditionKey := by
      rintro rfl
      revert hkey
      decide
    have hentry := hentries key hmetadata hcondition
    rwa [find?_entry r hmetadata hcondition, find?_entry s hmetadata hcondition] at hentry
  · intro h
    refine ⟨congrArg KindConfig.kind h, ?_⟩
    intro key hmetadata hcondition
    rw [find?_entry r hmetadata hcondition, find?_entry s hmetadata hcondition, h]

end RegistrationRecord

/-! ## Slashes at the start of a path -/

def slashed (n : Nat) (rest : String) : String :=
  String.ofList (List.replicate n '/') ++ rest

theorem toList_slashed (n : Nat) (rest : String) :
    (slashed n rest).toList = List.replicate n '/' ++ rest.toList := by
  rw [slashed, String.toList_append, String.toList_ofList]

namespace KindConfig

/-- No slash is left at the start of a path. -/
theorem head?_dropSlashes (path : String) : (dropSlashes path).toList.head? ≠ some '/' := by
  rw [dropSlashes, String.toList_ofList]
  intro h
  have hhead := List.head?_dropWhile_not (· == '/') path.toList
  rw [h] at hhead
  exact absurd hhead (by decide)

/-- A path is slashes and what is left of it. -/
theorem exists_slashed (path : String) : ∃ n, path = slashed n (dropSlashes path) := by
  refine ⟨(path.toList.takeWhile (· == '/')).length, String.toList_inj.1 ?_⟩
  have hall : ∀ c ∈ path.toList.takeWhile (· == '/'), c = '/' := by
    intro c hc
    have := List.mem_takeWhile_imp hc
    simpa using this
  have hslashes := List.eq_replicate_iff.2 ⟨rfl, hall⟩
  rw [toList_slashed, ← hslashes, dropSlashes, String.toList_ofList,
    List.takeWhile_append_dropWhile]

/-- Slashes at the start make no difference. -/
theorem dropSlashes_slashed (n : Nat) (rest : String) :
    dropSlashes (slashed n rest) = dropSlashes rest := by
  rw [dropSlashes, dropSlashes, toList_slashed]
  induction n with
  | zero => rfl
  | succ n ih =>
    rw [List.replicate_succ, List.cons_append, List.dropWhile_cons_of_pos (by decide)]
    exact ih

/-- Paths become the same when they differ in slashes at their starts. -/
theorem dropSlashes_eq_iff {p q : String} :
    dropSlashes p = dropSlashes q ↔ ∃ m n rest, p = slashed m rest ∧ q = slashed n rest := by
  constructor
  · intro h
    obtain ⟨m, hm⟩ := exists_slashed p
    obtain ⟨n, hn⟩ := exists_slashed q
    exact ⟨m, n, dropSlashes p, hm, by rw [h]; exact hn⟩
  · rintro ⟨m, n, rest, rfl, rfl⟩
    rw [dropSlashes_slashed, dropSlashes_slashed]

/-- A path is a slash and what is left of it when it starts with one slash, and with no more. -/
theorem eq_slash_append_iff {path : String} (h : path.toList.head? = some '/') :
    path = "/" ++ dropSlashes path ↔ ¬ ['/', '/'] <+: path.toList := by
  obtain ⟨rest, hrest⟩ := List.head?_eq_some_iff.1 h
  have hdrop : (dropSlashes path).toList = rest.dropWhile (· == '/') := by
    rw [dropSlashes, String.toList_ofList, hrest, List.dropWhile_cons_of_pos (by decide)]
  rw [← String.toList_inj, String.toList_append, hdrop, hrest]
  show '/' :: rest = '/' :: rest.dropWhile (· == '/') ↔ _
  cases rest with
  | nil => simp
  | cons x rest =>
    by_cases hx : x = '/'
    · subst hx
      have hshorter := List.length_dropWhile_le (p := (· == '/')) rest
      rw [List.dropWhile_cons_of_pos (by decide)]
      constructor
      · intro heq
        have hlength := congrArg List.length heq
        simp only [List.length_cons] at hlength
        omega
      · intro hnot
        exact absurd ⟨rest, rfl⟩ hnot
    · rw [List.dropWhile_cons_of_neg (by simpa using hx)]
      simp [Ne.symm hx]

end KindConfig

/-! ## Routes that become one -/

/-- Routes that the transport cannot tell apart: the same ones, and those of one method whose paths
differ in slashes at their starts. -/
def Route.Merges : Route → Route → Prop
  | http method path, http method' path' =>
    method = method' ∧ ∃ m n rest, path = slashed m rest ∧ path' = slashed n rest
  | r, s => r = s

/-- A path starts with one slash at most. -/
def Trigger.HasOneSlash : Trigger → Prop
  | http t => ¬ ['/', '/'] <+: t.path.toList
  | _ => True

namespace Trigger

theorem ofTrigger_eq_iff {t u : Trigger} :
    KindConfig.ofTrigger t = .ofTrigger u ↔ t.route.Merges u.route := by
  cases t with
  | http t =>
    cases u with
    | http u =>
      show KindConfig.http (KindConfig.dropSlashes t.path) t.method = .http _ u.method ↔
        t.method = u.method ∧ _
      rw [KindConfig.http.injEq, KindConfig.dropSlashes_eq_iff]
      exact And.comm
    | _ => simp [KindConfig.ofTrigger, route, Route.Merges]
  | _ =>
    cases u <;> simp [KindConfig.ofTrigger, route, Route.Merges]

/-- Without further slashes a route is told by its registration. -/
theorem route_eq_of_merges {t u : Trigger} (ht : t.Sound) (hu : u.Sound) (hone : t.HasOneSlash)
    (hone' : u.HasOneSlash) (h : t.route.Merges u.route) : t.route = u.route := by
  cases t with
  | http t =>
    cases u with
    | http u =>
      obtain ⟨hmethod, hpaths⟩ := h
      have hdrop := KindConfig.dropSlashes_eq_iff.2 hpaths
      have hpath : t.path = u.path := by
        rw [(KindConfig.eq_slash_append_iff ht).2 hone, hdrop,
          ← (KindConfig.eq_slash_append_iff hu).2 hone']
      show Route.http t.method t.path = .http u.method u.path
      rw [hmethod, hpath]
    | _ => exact h
  | _ => cases u <;> exact h

theorem RegisteredAs.sound {t : Trigger} {g : TriggerRegistration} (h : t.RegisteredAs g) :
    t.Sound := by
  obtain ⟨c, filePath, i, r, hc, ht, -, -⟩ := h
  obtain ⟨index, hproblems⟩ := StepConfig.trigger_problems hc t (List.mem_of_getElem? ht)
  exact sound_of_problems hproblems

/-- Every trigger of a configuration without problems is registered as something. -/
theorem exists_registeredAs {c : StepConfig} (h : c.problems = []) {t : Trigger}
    (ht : t ∈ c.triggers) (filePath : String) :
    ∃ r ∈ c.registrations filePath, t.RegisteredAs r.toTriggerRegistration := by
  obtain ⟨i, hi⟩ := List.mem_iff_getElem?.1 ht
  have hr := c.getElem?_registrations filePath i
  rw [hi] at hr
  exact ⟨_, List.mem_of_getElem? hr, c, filePath, i, _, h, hi, hr, rfl⟩

theorem RegisteredAs.exists_record {t : Trigger} {g : TriggerRegistration}
    (h : t.RegisteredAs g) :
    ∃ r : RegistrationRecord, r.kindConfig = .ofTrigger t ∧ g = r.toTriggerRegistration := by
  obtain ⟨c, filePath, i, r, -, ht, hr, rfl⟩ := h
  rw [StepConfig.getElem?_registrations, ht] at hr
  obtain rfl := Option.some.inj hr
  exact ⟨_, rfl, rfl⟩

/-- The entry of a route is its path without the slashes at its start. -/
theorem RegisteredAs.apiPath {t : HttpTrigger} {g : TriggerRegistration}
    (h : (http t).RegisteredAs g) :
    g.config.find? "api_path" = some (.string (KindConfig.dropSlashes t.path)) := by
  obtain ⟨r, hkind, rfl⟩ := h.exists_record
  rw [RegistrationRecord.find?_entry r (by decide) (by decide), hkind]
  exact KindConfig.valueOf_apiPath _ _

/-- Registrations with the same entries are those of triggers whose routes merge, and where no path
starts with two slashes these are the same routes. The entry of a route is its path without any
slash at its start: with a slash before it, this is the path when it had one. -/
theorem registration_tells_route {t u : Trigger} {g h : TriggerRegistration}
    (ht : t.RegisteredAs g) (hu : u.RegisteredAs h) :
    (g.SameEntries h ↔ t.route.Merges u.route) ∧
    (t.HasOneSlash → u.HasOneSlash → g.SameEntries h → t.route = u.route) ∧
    ∀ route, t = .http route → ∃ (apiPath : String) (n : Nat),
      g.config.find? "api_path" = some (.string apiPath) ∧
      apiPath.toList.head? ≠ some '/' ∧ route.path = slashed (n + 1) apiPath ∧
      (route.path = "/" ++ apiPath ↔ t.HasOneSlash) := by
  have hmerges : g.SameEntries h ↔ t.route.Merges u.route := by
    obtain ⟨r, hr, rfl⟩ := ht.exists_record
    obtain ⟨s, hs, rfl⟩ := hu.exists_record
    rw [RegistrationRecord.sameEntries_iff, hr, hs, ofTrigger_eq_iff]
  refine ⟨hmerges, ?_, ?_⟩
  · intro hone hone' hsame
    exact route_eq_of_merges ht.sound hu.sound hone hone' (hmerges.1 hsame)
  · rintro route rfl
    have hslash : route.path.toList.head? = some '/' := ht.sound
    have hleft := KindConfig.head?_dropSlashes route.path
    obtain ⟨n, hn⟩ := KindConfig.exists_slashed route.path
    refine ⟨_, n - 1, ht.apiPath, hleft, ?_, KindConfig.eq_slash_append_iff hslash⟩
    -- a sound path has a slash, so there is one to drop
    have hpos : n ≠ 0 := by
      rintro rfl
      rw [hn, toList_slashed, List.replicate_zero, List.nil_append] at hslash
      exact hleft hslash
    rw [show n - 1 + 1 = n by omega]
    exact hn

/-- A step with routes of one method, and on the items of a group. -/
def routed (paths : List String) : StepConfig :=
  { StepConfig.new "A" with
    triggers := paths.map (fun path => .http (.new .get path)) ++
      [.stream ⟨"todos", some "g", none, none⟩] }

/-- A route of two steps. -/
theorem registration_tells_item_route :
    ∃ r ∈ (routed ["/items/:id"]).registrations "a.rs",
    ∃ s ∈ (routed ["/", "/items/:id"]).registrations "b.rs",
      (http (.new .get "/items/:id")).RegisteredAs r.toTriggerRegistration ∧
      (http (.new .get "/items/:id")).RegisteredAs s.toTriggerRegistration ∧
      r.toTriggerRegistration.SameEntries s.toTriggerRegistration ∧
      ∃ apiPath, r.toTriggerRegistration.config.find? "api_path" = some (.string apiPath) ∧
        "/items/:id" = "/" ++ apiPath := by
  have hone : ¬ ['/', '/'] <+: "/items/:id".toList := by decide
  obtain ⟨r, hr, ht⟩ := exists_registeredAs (c := routed ["/items/:id"]) (by decide)
    (t := .http (.new .get "/items/:id")) List.mem_cons_self "a.rs"
  obtain ⟨s, hs, hu⟩ := exists_registeredAs (c := routed ["/", "/items/:id"]) (by decide)
    (t := .http (.new .get "/items/:id")) (List.mem_cons_of_mem _ List.mem_cons_self) "b.rs"
  obtain ⟨hmerges, -, hpath⟩ := registration_tells_route ht hu
  obtain ⟨apiPath, n, hentry, -, -, hiff⟩ := hpath _ rfl
  refine ⟨r, hr, s, hs, ht, hu, ?_, apiPath, hentry, hiff.2 hone⟩
  exact hmerges.2 ⟨rfl, 0, 0, "/items/:id", rfl, rfl⟩

/-- Two routes of a step that are different, as their ids are, and the same for the transport. A
slash before the entry of the second is not its path. -/
theorem second_slash_is_lost :
    ∃ r s : RegistrationRecord,
      ((routed ["/a", "//a"]).registrations "a.rs")[0]? = some r ∧
      ((routed ["/a", "//a"]).registrations "a.rs")[1]? = some s ∧
      (http (.new .get "/a")).RegisteredAs r.toTriggerRegistration ∧
      (http (.new .get "//a")).RegisteredAs s.toTriggerRegistration ∧
      r.functionId = "steps::A::trigger::http(GET /a)" ∧
      s.functionId = "steps::A::trigger::http(GET //a)" ∧
      r.toTriggerRegistration.SameEntries s.toTriggerRegistration ∧
      (http (.new .get "/a")).route ≠ (http (.new .get "//a")).route ∧
      s.toTriggerRegistration.config.find? "api_path" = some (.string "a") ∧
      "/" ++ "a" ≠ "//a" := by
  have hsound : (routed ["/a", "//a"]).problems = [] := by decide
  have hr := (routed ["/a", "//a"]).getElem?_registrations "a.rs" 0
  have hs := (routed ["/a", "//a"]).getElem?_registrations "a.rs" 1
  have ht : (http (.new .get "//a")).RegisteredAs _ := ⟨_, _, 1, _, hsound, rfl, hs, rfl⟩
  refine ⟨_, _, hr, hs, ⟨_, _, 0, _, hsound, rfl, hr, rfl⟩, ht, by decide, by decide, ?_,
    by decide, ?_, by decide⟩
  · exact (RegistrationRecord.sameEntries_iff _ _).2 (by decide)
  · rw [ht.apiPath]
    decide

end Trigger

end StepEngine
