import StepEngine.Schema.Vocabulary
/-!
# References

* `Locus` : where a schema stands: its draft, the vocabularies that count there, its identity, and
  the identities on the way to it;
* `Locus.enter` : the locus of a schema inside the one at hand;
* `Locus.meaning` : the full form of a reference;
* `Locus.lookup` : the schema that a reference leads to, and its locus;
* `Locus.lookupRecursive` : the schema that `$recursiveRef` leads to;
* `Locus.refer` : the schema that a keyword refers to.

A reference is a resource, and in it the whole (`#`), a pointer (`#/a/b`) or an anchor (`#name`). A
dynamic anchor is taken from the outermost resource on the way that has it.
-/

namespace StepEngine

/-- Where a schema stands. The scope holds the identities on the way to it, the nearest first. -/
structure Locus where
  registry : Registry
  draft : Draft
  vocabularies : List Vocabulary
  base : Uri
  scope : List Uri

namespace Locus

def identify (s : Locus) (schema : Json) : Except ReferenceFault Locus := do
  let base ← s.base.enter s.draft schema
  .ok { s with base := base }

/-- The locus of a schema inside the one at hand. -/
def enter (s : Locus) (schema : Json) : Except ReferenceFault Locus :=
  { s with draft := s.draft.inner schema }.identify schema

def meaning (s : Locus) (reference : String) : Except ReferenceFault Uri :=
  if reference = "#" && s.base.fragment.isNone then .ok { s.base with fragment := some "" }
  else s.base.join? reference

def goTo (s : Locus) (uri : Uri) (draft : Draft) : Locus :=
  if s.scope.isEmpty || uri != s.base then { s with draft, base := uri, scope := s.base :: s.scope }
  else { s with draft }

/-! ## Pointers -/

def percentBytes : List Char → List UInt8
  | '%' :: a :: b :: rest =>
    if Hex.isDigit a && Hex.isDigit b then .ofNat (Hex.number [a, b]) :: percentBytes rest
    else (37 : UInt8) :: percentBytes (a :: b :: rest)
  | c :: rest => c.toString.toUTF8.toList ++ percentBytes rest
  | [] => []

/-- A text without `%` escapes, if there is one. -/
def percentDecode? (cs : List Char) : Option (List Char) :=
  if cs.contains '%' then (String.fromUTF8? ⟨(percentBytes cs).toArray⟩).map String.toList else some cs

/-- The index that a key means: digits, after a plus sign if there is one. -/
def index? (key : List Char) : Option Nat :=
  let digits :=
    match key with
    | '+' :: rest => rest
    | _ => key
  let n := digits.foldl (fun n d => 10 * n + (d.toNat - 48)) 0
  if digits.isEmpty || !digits.all Char.isDigit || Nat.pow 2 64 ≤ n then none else some n

/-- Follows the keys of a pointer. `way` holds the keys since the last identity, the last one
first. -/
def follow (pointer : String) : (keys : List (List Char)) → (way : List String) → Locus → Json →
    Except ReferenceFault (Locus × Json)
  | [], _, s, v => .ok (s, v)
  | key :: keys, way, s, v => do
    let (step, next) ←
      match v with
      | .array items =>
        match index? key with
        | none => .error (.badIndex pointer (String.ofList key))
        | some i =>
          match items[i]? with
          | some next => .ok (toString i, next)
          | none => .error (.noPointer pointer)
      | _ =>
        let name := String.ofList (Harvest.unescapeKey key)
        match v.get? name with
        | some next => .ok (name, next)
        | none => .error (.noPointer pointer)
    let way := step :: way
    let inside ← if s.draft.staysInside next way.reverse then s.identify next else .ok s
    follow pointer keys (if inside.base == s.base then way else []) inside next

def atPointer (s : Locus) (pointer : String) (contents : Json) :
    Except ReferenceFault (Locus × Json) :=
  match percentDecode? (pointer.toList.drop 1) with
  | none => .error (.badEscape pointer)
  | some keys => follow pointer (Text.split (· == '/') keys) [] s contents

/-! ## Anchors -/

/-- The place of a name in a resource. -/
def anchorIn (s : Locus) (uri : Uri) (name : String) : Except ReferenceFault Anchor :=
  let renamed : Except ReferenceFault (Option Anchor) :=
    match s.registry.find? uri with
    | none => .ok none
    | some resource =>
      match resource.draft.idOf resource.contents with
      | none => .ok none
      | some id => do
        let uri ← Uri.nowhere.join? id
        .ok (s.registry.anchorAt? uri name)
  match s.registry.anchorAt? uri name with
  | some anchor => .ok anchor
  | none => do
    match ← renamed with
    | some anchor => .ok anchor
    | none => .error (if name.toList.contains '/' then .badAnchor name else .noAnchor name)

/-- The last of the resources on the way that have a dynamic anchor of a name. -/
def outermost (s : Locus) (name : String) : (scope : List Uri) → Resource →
    Except ReferenceFault Resource
  | [], last => .ok last
  | uri :: scope, last =>
    match s.anchorIn uri name with
    | .ok anchor => outermost s name scope (if anchor.name.dynamic then anchor.resource else last)
    | .error (.noAnchor _) => outermost s name scope last
    | .error fault => .error fault

def atAnchor (s : Locus) (uri : Uri) (name : String) : Except ReferenceFault (Locus × Json) := do
  let anchor ← s.anchorIn uri name
  if anchor.name.dynamic then
    let s := s.goTo uri anchor.resource.draft
    let last ← s.outermost name s.scope anchor.resource
    let s ← { s with draft := last.draft }.identify last.contents
    .ok (s, last.contents)
  else .ok (s.goTo uri anchor.resource.draft, anchor.resource.contents)

/-! ## Resources -/

/-- The parts of a reference around its last `#`. -/
def cut (reference : String) : String × String :=
  let fragment := (reference.toList.reverse.takeWhile (· != '#')).reverse
  let before := reference.toList.take (reference.toList.length - fragment.length - 1)
  if reference.toList.contains '#' then (String.ofList before, String.ofList fragment) else (reference, "")

/-- The resource of a reference and the fragment in it. -/
def split (s : Locus) (reference : String) : Except ReferenceFault (Uri × String) :=
  if Draft.isHashed reference then .ok (s.base, String.ofList (reference.toList.drop 1))
  else do
    let (path, fragment) := cut reference
    let uri ← s.base.join? path
    .ok (uri, fragment)

/-- The schema that a fragment leads to in a resource, and its locus. -/
def resolve (s : Locus) (uri : Uri) (fragment : String) : Except ReferenceFault (Locus × Json) :=
  match s.registry.find? uri with
  | none => .error (.noResource uri.render .closed)
  | some resource =>
    match fragment.toList with
    | [] => .ok (s.goTo uri resource.draft, resource.contents)
    | '/' :: _ => (s.goTo uri resource.draft).atPointer fragment resource.contents
    | _ => s.atAnchor uri fragment

def lookup (s : Locus) (reference : String) : Except ReferenceFault (Locus × Json) :=
  if reference = "#" then s.resolve s.base ""
  else do
    let (uri, fragment) ← s.split reference
    s.resolve uri fragment

/-- A schema that hands `$recursiveRef` on to the resource around it. -/
def isRecursive (schema : Json) : Bool :=
  schema.get? "$recursiveAnchor" == some (.bool true)

/-- The last resource on the way, as long as each hands the reference on. -/
def handedOn (s : Locus) : (scope : List Uri) → (Locus × Json) → Except ReferenceFault (Locus × Json)
  | [], last => .ok last
  | uri :: scope, last => do
    let next ← s.resolve uri ""
    if isRecursive next.2 then handedOn s scope next else .ok last

def lookupRecursive (s : Locus) : Except ReferenceFault (Locus × Json) := do
  let own ← s.lookup "#"
  if isRecursive own.2 then s.handedOn s.scope own else .ok own

/-- The schema that a keyword refers to, and its locus. A keyword without a text accepts all. -/
def refer (s : Locus) (keyword : String) (arg : Json) : Except ReferenceFault (Locus × Json) :=
  match keyword, arg with
  | "$recursiveRef", _ => s.lookupRecursive
  | _, .string reference => s.lookup reference
  | _, _ => .ok (s, .bool true)

end Locus

end StepEngine
