import Mathlib.Data.List.Perm.Subperm
import StepEngine.Json.Equality
import StepEngine.Json.Reader

/-!
# Values without repeated keys

The members of an object are a list, so nothing keeps a key from standing in it twice. In a value that
was read none does, and between such values equality is an equality.

* `Json.DistinctKeys` : no object in a value has a key twice;
* `Json.sameUnder_self`, `sameUnder_comm` : equality of such values is reflexive and symmetric, and so
  it is with numbers by their value (`Json.equal_self`, `equal_comm`);
* `Json.distinctKeys_of_read` : all values that are read from texts are such values.
-/

namespace StepEngine

theorem Number.equal_self (n : Number) : n.equal n = true := by
  cases n <;> simp [equal]

theorem Number.equal_comm (m n : Number) : m.equal n = n.equal m := by
  cases m <;> cases n <;> simp [equal, Bool.beq_comm]

namespace Json

/-- No object in a value has a key twice. -/
inductive DistinctKeys : Json → Prop where
  | null : DistinctKeys .null
  | bool (value : Bool) : DistinctKeys (.bool value)
  | number (value : Number) : DistinctKeys (.number value)
  | string (value : String) : DistinctKeys (.string value)
  | array {items : List Json} (items_distinct : ∀ v ∈ items, DistinctKeys v) :
    DistinctKeys (.array items)
  | object {members : List (String × Json)} (nodup : (members.map (·.1)).Nodup)
    (members_distinct : ∀ m ∈ members, DistinctKeys m.2) : DistinctKeys (.object members)

theorem mem_of_lookup {entries : List (String × Json)} {key : String} {v : Json}
    (h : entries.lookup key = some v) : (key, v) ∈ entries := by
  obtain ⟨before, after, rfl, -⟩ := List.lookup_eq_some_iff.1 h
  exact List.mem_append_right _ List.mem_cons_self

namespace DistinctKeys

theorem of_mem_array {items : List Json} (h : DistinctKeys (.array items)) {v : Json}
    (hv : v ∈ items) : v.DistinctKeys := by
  cases h with
  | array hitems => exact hitems v hv

theorem nodup_keys {members : List (String × Json)} (h : DistinctKeys (.object members)) :
    (members.map (·.1)).Nodup := by
  cases h with
  | object hnodup _ => exact hnodup

theorem of_mem_object {members : List (String × Json)} (h : DistinctKeys (.object members))
    {m : String × Json} (hm : m ∈ members) : m.2.DistinctKeys := by
  cases h with
  | object _ hmembers => exact hmembers m hm

theorem of_get? {v w : Json} {key : String} (h : v.DistinctKeys) (hw : v.get? key = some w) :
    w.DistinctKeys := by
  cases v with
  | object members => exact h.of_mem_object (mem_of_lookup hw)
  | null | bool _ | number _ | string _ | array _ => cases hw

end DistinctKeys

/-! ## Equality -/

variable {same : Number → Number → Bool}

theorem sameMembers_iff {a b : List (String × Json)} :
    sameMembers same a b = true ↔
      ∀ m ∈ a, ∃ v, b.lookup m.1 = some v ∧ sameUnder same m.2 v = true := by
  induction a with
  | nil => simp [sameMembers]
  | cons m rest ih =>
    obtain ⟨key, v⟩ := m
    rw [sameMembers, Bool.and_eq_true, ih, List.forall_mem_cons]
    cases b.lookup key <;> simp

theorem sameItems_self {items : List Json} (h : ∀ v ∈ items, sameUnder same v v = true) :
    sameItems same items items = true := by
  induction items with
  | nil => rfl
  | cons v rest ih =>
    obtain ⟨hv, hrest⟩ := List.forall_mem_cons.1 h
    rw [sameItems, hv, ih hrest, Bool.and_true]

/-- A value without repeated keys equals itself. -/
theorem sameUnder_self (hsame : ∀ n, same n n = true) {a : Json} (h : a.DistinctKeys) :
    sameUnder same a a = true := by
  induction h with
  | null => rfl
  | bool b => exact beq_self_eq_true b
  | number n => exact hsame n
  | string s => exact beq_self_eq_true s
  | array _ ih => exact sameItems_self ih
  | object hnodup _ ih =>
    rw [sameUnder, beq_self_eq_true, Bool.true_and, sameMembers_iff]
    exact fun m hm => ⟨m.2, SortedMap.lookup_of_mem hnodup hm, ih m hm⟩

theorem sameItems_comm {a b : List Json}
    (h : ∀ v ∈ a, ∀ w ∈ b, sameUnder same v w = sameUnder same w v) :
    sameItems same a b = sameItems same b a := by
  induction a generalizing b with
  | nil => cases b <;> rfl
  | cons v a ih =>
    cases b with
    | nil => rfl
    | cons w b =>
      obtain ⟨hv, ha⟩ := List.forall_mem_cons.1 h
      rw [sameItems, sameItems, hv w List.mem_cons_self,
        ih fun x hx y hy => ha x hx y (List.mem_cons_of_mem _ hy)]

/-- Of two lists of the same length without a key twice, when each member of the first has an equal
one in the second, each of the second has one in the first: the keys are the same. -/
theorem sameMembers_swap {a b : List (String × Json)} (ha : (a.map (·.1)).Nodup)
    (hb : (b.map (·.1)).Nodup) (hlength : a.length = b.length)
    (hcomm : ∀ m ∈ a, ∀ n ∈ b, sameUnder same m.2 n.2 = sameUnder same n.2 m.2)
    (h : sameMembers same a b = true) : sameMembers same b a = true := by
  rw [sameMembers_iff] at h ⊢
  have hsubset : a.map (·.1) ⊆ b.map (·.1) := by
    intro key hkey
    obtain ⟨m, hm, rfl⟩ := List.mem_map.1 hkey
    obtain ⟨v, hv, -⟩ := h m hm
    exact List.mem_map.2 ⟨_, mem_of_lookup hv, rfl⟩
  have hperm : (a.map (·.1)).Perm (b.map (·.1)) :=
    (ha.subperm hsubset).perm_of_length_le (by simp [hlength])
  intro n hn
  obtain ⟨m, hm, hkey⟩ := List.mem_map.1 (hperm.mem_iff.2 (List.mem_map_of_mem hn))
  obtain ⟨v, hv, hequal⟩ := h m hm
  rw [hkey, SortedMap.lookup_of_mem hb hn] at hv
  obtain rfl := Option.some.inj hv
  refine ⟨m.2, ?_, ?_⟩
  · rw [← hkey]
    exact SortedMap.lookup_of_mem ha hm
  · rw [← hcomm m hm n hn]
    exact hequal

/-- Equality of values without repeated keys is symmetric. -/
theorem sameUnder_comm (hsame : ∀ m n, same m n = same n m) {a b : Json} (ha : a.DistinctKeys)
    (hb : b.DistinctKeys) : sameUnder same a b = sameUnder same b a := by
  induction ha generalizing b with
  | null => cases b <;> rfl
  | bool x =>
    cases b with
    | bool y => exact Bool.beq_comm
    | null | number _ | string _ | array _ | object _ => rfl
  | number m =>
    cases b with
    | number n => exact hsame m n
    | null | bool _ | string _ | array _ | object _ => rfl
  | string s =>
    cases b with
    | string t => exact Bool.beq_comm
    | null | bool _ | number _ | array _ | object _ => rfl
  | array _ ih =>
    cases b with
    | array items => exact sameItems_comm fun v hv w hw => ih v hv (hb.of_mem_array hw)
    | null | bool _ | number _ | string _ | object _ => rfl
  | @object members hnodup _ ih =>
    cases b with
    | object others =>
      have hcomm : ∀ m ∈ members, ∀ n ∈ others, sameUnder same m.2 n.2 = sameUnder same n.2 m.2 :=
        fun m hm n hn => ih m hm (hb.of_mem_object hn)
      rw [sameUnder, sameUnder, Bool.eq_iff_iff, Bool.and_eq_true, Bool.and_eq_true, beq_iff_eq,
        beq_iff_eq]
      constructor
      · rintro ⟨hlength, h⟩
        exact ⟨hlength.symm, sameMembers_swap hnodup hb.nodup_keys hlength hcomm h⟩
      · rintro ⟨hlength, h⟩
        refine ⟨hlength.symm, sameMembers_swap hb.nodup_keys hnodup hlength ?_ h⟩
        exact fun n hn m hm => (hcomm m hm n hn).symm
    | null | bool _ | number _ | string _ | array _ => rfl

theorem equal_self {a : Json} (h : a.DistinctKeys) : a.equal a = true :=
  sameUnder_self Number.equal_self h

theorem equal_comm {a b : Json} (ha : a.DistinctKeys) (hb : b.DistinctKeys) :
    a.equal b = b.equal a :=
  sameUnder_comm Number.equal_comm ha hb

/-! ## Values that are read -/

/-- What a reader gives back, if it gives something back. -/
def Yields {α : Type} (P : α → Prop) (answer : Except ReadError (α × Cursor)) : Prop :=
  ∀ result c, answer = .ok (result, c) → P result

section Yields

variable {α β : Type} {P : α → Prop} {Q : β → Prop}

theorem yields_error (e : ReadError) : Yields P (.error e) := nofun

theorem yields_ok {result : α} (h : P result) (c : Cursor) : Yields P (.ok (result, c)) := by
  rintro _ _ ⟨⟩
  exact h

theorem Yields.bind {answer : Except ReadError (α × Cursor)}
    {next : α × Cursor → Except ReadError (β × Cursor)} (h : Yields P answer)
    (hnext : ∀ result c, P result → Yields Q (next (result, c))) : Yields Q (answer >>= next) := by
  cases answer with
  | error e => exact yields_error e
  | ok first => exact hnext first.1 first.2 (h first.1 first.2 rfl)

theorem yields_any (answer : Except ReadError (α × Cursor)) : Yields (fun _ => True) answer :=
  fun _ _ _ => trivial

end Yields

theorem yields_readWord {P : Json → Prop} {value : Json} (h : P value) (letters : List Char)
    (c : Cursor) : Yields P (readWord value letters c) := by
  induction letters generalizing c with
  | nil => exact yields_ok h c
  | cons letter letters ih =>
    rw [readWord]
    split
    · exact yields_error _
    · split
      · exact ih _
      · exact yields_error _

section Numbers

variable {negative : Bool} {significand : Nat} {scale : Int} {c : Cursor}

/-- The kernel would evaluate a `match` on a double that it has to compare with a name, so the function
is opened as a whole. -/
theorem readDouble_eq : readDouble = fun negative significand exponent c =>
    match Double.ofParts negative significand exponent with
    | some d => .ok (number (.double d), c)
    | none => .error (c.here .numberOutOfRange) := by
  delta readDouble
  rfl

theorem yields_readDouble : Yields DistinctKeys (readDouble negative significand scale c) := by
  rw [readDouble_eq]
  dsimp only
  cases Double.ofParts negative significand scale with
  | none => exact yields_error _
  | some d => exact yields_ok (.number (.double d)) c

theorem yields_readExponent : Yields DistinctKeys (readExponent negative significand scale c) := by
  unfold readExponent
  extract_lets afterMark
  split
  split
  · exact yields_error _
  · split
    · extract_lets ds after
      split
      · split
        · exact yields_error _
        · exact yields_ok (.number _) _
      · exact yields_readDouble
    · exact yields_error _

theorem yields_readFraction : Yields DistinctKeys (readFraction negative significand scale c) := by
  simp only [readFraction]
  split
  · exact yields_error _
  · exact yields_error _
  · split
    · exact yields_readExponent
    · exact yields_readExponent
    · exact yields_readDouble

theorem yields_readAfterWhole {whole : List Char} :
    Yields DistinctKeys (readAfterWhole negative whole c) := by
  simp only [readAfterWhole]
  split
  · exact yields_readFraction
  · exact yields_readExponent
  · exact yields_readExponent
  · split
    · exact yields_readDouble
    · split
      · split
        · exact yields_ok (.number _) c
        · exact yields_readDouble
      · exact yields_ok (.number _) c

theorem yields_readNumber : Yields DistinctKeys (readNumber negative c) := by
  simp only [readNumber]
  split
  · exact yields_error _
  · split
    · split
      · exact yields_error _
      · exact yields_readAfterWhole
    · exact yields_readAfterWhole
  · split
    · exact yields_readAfterWhole
    · exact yields_error _

end Numbers

/-- Members that have been put in their places: their keys ascend. -/
def Placed (members : List (String × Json)) : Prop :=
  SortedMap.Ascending members ∧ ∀ m ∈ members, m.2.DistinctKeys

theorem Placed.insertEntry {members : List (String × Json)} (h : Placed members) (key : String)
    {v : Json} (hv : v.DistinctKeys) : Placed (SortedMap.insertEntry key v members) := by
  refine ⟨h.1.insertEntry key v, ?_⟩
  intro m hm
  rcases SortedMap.mem_insertEntry hm with rfl | hm
  · exact hv
  · exact h.2 m hm

theorem Placed.distinctKeys {members : List (String × Json)} (h : Placed members) :
    DistinctKeys (.object members) :=
  .object (SortedMap.nodup_keys ⟨members, h.1⟩) h.2

/-- The readers of values, elements, members and a member, by the fuel that they share. -/
theorem yields_read (fuel : Nat) :
    (∀ depth c, Yields DistinctKeys (readValue fuel depth c)) ∧
    (∀ depth first c,
      Yields (fun items => ∀ v ∈ items, v.DistinctKeys) (readItems fuel depth first c)) ∧
    (∀ depth first read c, Placed read → Yields Placed (readMembers fuel depth first read c)) ∧
    ∀ depth c, Yields (fun m => m.2.DistinctKeys) (readMember fuel depth c) := by
  induction fuel with
  | zero =>
    exact ⟨fun _ _ => yields_error _, fun _ _ _ => yields_error _, fun _ _ _ _ _ => yields_error _,
      fun _ _ => yields_error _⟩
  | succ fuel ih =>
    obtain ⟨hvalue, hitems, hmembers, hmember⟩ := ih
    refine ⟨?value, ?items, ?members, ?member⟩
    case value =>
      intro depth c
      simp only [readValue]
      split
      · exact yields_error _
      · exact yields_readWord .null _ _
      · exact yields_readWord (.bool true) _ _
      · exact yields_readWord (.bool false) _ _
      · exact yields_readNumber
      · exact (yields_any _).bind fun s c _ => yields_ok (.string s) c
      · split
        · exact yields_error _
        · exact yields_error _
        · exact (hitems _ _ _).bind fun items c h => yields_ok (.array h) c
      · split
        · exact yields_error _
        · exact yields_error _
        · exact (hmembers _ _ _ _ ⟨.nil, nofun⟩).bind fun members c h => yields_ok h.distinctKeys c
      · split
        · exact yields_readNumber
        · exact yields_error _
    case items =>
      intro depth first c
      have hboth (c : Cursor) : Yields (fun items => ∀ v ∈ items, v.DistinctKeys) (do
          let first ← readValue fuel depth c
          let others ← readItems fuel depth false first.2
          .ok (first.1 :: others.1, others.2)) := by
        refine (hvalue depth c).bind fun v c hv => (hitems depth false c).bind fun vs c hvs => ?_
        exact yields_ok (List.forall_mem_cons.2 ⟨hv, hvs⟩) c
      simp only [readItems]
      split
      · exact yields_error _
      · exact yields_ok (List.forall_mem_nil _) _
      · split
        · exact hboth _
        · split
          · split
            · exact yields_error _
            · exact yields_error _
            · exact hboth _
          · exact yields_error _
    case members =>
      intro depth first read c hread
      have hboth (c : Cursor) : Yields Placed (do
          let first ← readMember fuel depth c
          readMembers fuel depth false (SortedMap.insertEntry first.1.1 first.1.2 read) first.2) :=
        (hmember depth c).bind fun m c hm => hmembers depth false _ c (hread.insertEntry m.1 hm)
      simp only [readMembers]
      split
      · exact yields_error _
      · exact yields_ok hread _
      · split
        · split
          · exact hboth _
          · exact yields_error _
        · split
          · split
            · exact yields_error _
            · exact hboth _
            · exact yields_error _
            · exact yields_error _
          · exact yields_error _
    case member =>
      intro depth c
      simp only [readMember]
      refine (yields_any _).bind fun key c _ => ?_
      dsimp only
      split
      · exact yields_error _
      · refine (hvalue depth _).bind fun v c hv => ?_
        apply yields_ok
        exact hv
      · exact yields_error _

/-- In a value that was read no object has a key twice. -/
theorem distinctKeys_of_read {text : String} {v : Json} (h : read text = .ok v) :
    v.DistinctKeys := by
  rw [read] at h
  cases hvalue : readValue (2 * text.toList.length + 2) 128 ⟨text.toList, 1, 0⟩ with
  | error e =>
    rw [hvalue] at h
    cases h
  | ok first =>
    simp only [hvalue, bind, Except.bind] at h
    split at h
    · obtain rfl := Except.ok.inj h
      exact (yields_read _).1 _ _ _ _ hvalue
    · cases h

end Json

end StepEngine
