import StepEngine.Pattern.Escape
import StepEngine.Pattern.Property
import StepEngine.Text.Letter
import StepEngine.Text.CaseFold
/-!
# Classes of characters in patterns

* `Pattern.ClassMode` : how a class is read: laid out with blanks or not, in any case or not, for its
  characters or only for its form;
* `Pattern.Escape.set?` : the characters that an escape stands for in a class;
* `Pattern.readClass` : a class, after its opening bracket;
* `Pattern.setOf?` : the characters of a class or an escape that a text spells.

A class holds characters, ranges, escapes, named sets and classes. The operations `&&`, `--` and `~~`
group to the left. In any case, each class and each operand is completed by the variants of its
characters before it is negated.
-/

namespace StepEngine.Pattern

open Text (CharSet)

/-- How a class is read. With `formOnly` the names of properties are not looked up. -/
structure ClassMode where
  spaced : Bool
  anyCase : Bool
  formOnly : Bool

/-- A set with the variants of its characters, in any case. -/
def ClassMode.complete (m : ClassMode) (s : CharSet) : CharSet :=
  if m.anyCase then s.foldCase else s

def ClassMode.finish (m : ClassMode) (negated : Bool) (s : CharSet) : CharSet :=
  if negated then (m.complete s).complement else m.complete s

def shortSet (letter : Char) : CharSet :=
  let set :=
    match letter.toLower with
    | 'd' => Text.decimal
    | 's' => Text.whiteSpace
    | _ => Text.wordChars
  if letter.isUpper then set.complement else set

def namedSets : List (String × CharSet) := [
  ("alnum", ⟨#[(48, 57), (65, 90), (97, 122)]⟩),
  ("alpha", ⟨#[(65, 90), (97, 122)]⟩),
  ("ascii", ⟨#[(0, 127)]⟩),
  ("blank", ⟨#[(9, 9), (32, 32)]⟩),
  ("cntrl", ⟨#[(0, 31), (127, 127)]⟩),
  ("digit", ⟨#[(48, 57)]⟩),
  ("graph", ⟨#[(33, 126)]⟩),
  ("lower", ⟨#[(97, 122)]⟩),
  ("print", ⟨#[(32, 126)]⟩),
  ("punct", ⟨#[(33, 47), (58, 64), (91, 96), (123, 126)]⟩),
  ("space", ⟨#[(9, 13), (32, 32)]⟩),
  ("upper", ⟨#[(65, 90)]⟩),
  ("word", ⟨#[(48, 57), (65, 90), (95, 95), (97, 122)]⟩),
  ("xdigit", ⟨#[(48, 57), (65, 70), (97, 102)]⟩)]

/-- A named set and what follows it, after `[:`. -/
def namedSet? (m : ClassMode) (cs : List Char) : Option (CharSet × List Char) :=
  let (negated, cs) :=
    match cs with
    | '^' :: rest => (true, rest)
    | _ => (false, cs)
  let name := cs.takeWhile (· != ':')
  match cs.drop name.length, namedSets.lookup (String.ofList name) with
  | ':' :: ']' :: rest, some set => some (m.finish negated set, rest)
  | _, _ => none

/-- The characters that an escape stands for in a class; an assertion stands for none. -/
def Escape.set? (m : ClassMode) : Escape → Option CharSet
  | char c => some (.single c)
  | short letter => some (if m.formOnly then .none else shortSet letter)
  | property negated name =>
    if m.formOnly then some .none
    else (property? name).map fun (set, others) => m.finish (negated != others) set
  | assertion => none

inductive ClassOp where
  | inter
  | diff
  | symmetricDiff

def ClassOp.apply (m : ClassMode) (op : ClassOp) (a b : CharSet) : CharSet :=
  match op with
  | inter => (m.complete a).inter (m.complete b)
  | diff => (m.complete a).diff (m.complete b)
  | symmetricDiff => (m.complete a).symmetricDiff (m.complete b)

/-- A class: its characters, how deep it is nested, and for each short class in it, the last one first,
how many characters of the pattern there are from its backslash on. -/
structure ClassFound where
  set : CharSet
  depth : Nat
  shorts : List Nat

/-- What has been read of a class: the characters of the part at hand, how many items it has and how
deep the deepest is nested; the operation before it with the characters and the depth of its left side;
and the short classes so far. -/
structure ClassProgress where
  part : CharSet
  count : Nat
  deepest : Nat
  pending : Option (ClassOp × CharSet × Nat)
  shorts : List Nat

namespace ClassProgress

/-- One item more in the part at hand. -/
def add (p : ClassProgress) (item : ClassFound) : ClassProgress where
  part := p.part.union item.set
  count := p.count + 1
  deepest := max p.deepest item.depth
  pending := p.pending
  shorts := item.shorts ++ p.shorts

def set (m : ClassMode) (p : ClassProgress) : CharSet :=
  match p.pending with
  | some (op, left, _) => op.apply m left p.part
  | none => p.part

/-- How deep what has been read is nested. Several items are one level above each of them. -/
def depth (p : ClassProgress) : Nat :=
  let part := if 2 ≤ p.count then p.deepest + 1 else p.deepest
  match p.pending with
  | some (_, _, left) => max left part + 1
  | none => part

/-- The left side of an operation has been read. -/
def operate (m : ClassMode) (p : ClassProgress) (op : ClassOp) : ClassProgress :=
  ⟨.none, 0, 0, some (op, p.set m, p.depth), p.shorts⟩

end ClassProgress

/-- The dashes and the closing bracket that stand for themselves at the start of a class. -/
def classStart (spaced : Bool) : (fuel : Nat) → ClassProgress → List Char → ClassProgress × List Char
  | 0, p, cs => (p, cs)
  | fuel + 1, p, cs =>
    match cs with
    | '-' :: rest => classStart spaced fuel (p.add ⟨.single '-', 0, []⟩) (skip spaced rest)
    | ']' :: rest =>
      if p.count = 0 then (p.add ⟨.single ']', 0, []⟩, skip spaced rest) else (p, cs)
    | _ => (p, cs)

def readClassItem (m : ClassMode) (cs : List Char) : Except Fault (Escape × List Char) :=
  match cs with
  | '\\' :: rest => readEscape m.spaced rest
  | c :: rest => .ok (.char c, rest)
  | [] => .error .other

def readRange (m : ClassMode) (cs : List Char) : Except Fault (ClassFound × List Char) := do
  let (first, rest) ← readClassItem m cs
  let single := fun rest =>
    match first.set? m with
    | some set => Except.ok (⟨set, 0, if first.isShort then [cs.length] else []⟩, rest)
    | none => .error .other
  match skip m.spaced rest with
  | [] => .error .other
  | '-' :: after =>
    match skip m.spaced after with
    | ']' :: _ | '-' :: _ => single ('-' :: after)
    | [] => .error .other
    | after => do
      let (last, rest) ← readClassItem m after
      match first, last with
      | .char a, .char b =>
        if a.toNat ≤ b.toNat then .ok (⟨⟨#[(a.toNat, b.toNat)]⟩, 0, []⟩, rest) else .error .other
      | _, _ => .error .other
  | rest => single rest

mutual

/-- A class, after its opening bracket. -/
def readClass (m : ClassMode) : (fuel : Nat) → List Char → Except Fault (ClassFound × List Char)
  | 0, _ => .error .other
  | fuel + 1, cs => do
    let cs := skip m.spaced cs
    let (negated, cs) :=
      match cs with
      | '^' :: rest => (true, skip m.spaced rest)
      | _ => (false, cs)
    let (start, cs) := classStart m.spaced (cs.length + 1) ⟨.none, 0, 0, none, []⟩ cs
    let (p, rest) ← readClassRest m fuel start cs
    .ok (⟨m.finish negated (p.set m), p.depth + 1, p.shorts⟩, rest)

def readClassRest (m : ClassMode) : (fuel : Nat) → ClassProgress → List Char →
    Except Fault (ClassProgress × List Char)
  | 0, _, _ => .error .other
  | fuel + 1, p, cs =>
    match skip m.spaced cs with
    | [] => .error .other
    | ']' :: rest => .ok (p, rest)
    | '&' :: '&' :: rest => readClassRest m fuel (p.operate m .inter) rest
    | '-' :: '-' :: rest => readClassRest m fuel (p.operate m .diff) rest
    | '~' :: '~' :: rest => readClassRest m fuel (p.operate m .symmetricDiff) rest
    | '[' :: rest => do
      let known :=
        match rest with
        | ':' :: rest => namedSet? m rest
        | _ => none
      let (item, rest) ←
        match known with
        | some (set, rest) => .ok (⟨set, 0, []⟩, rest)
        | none => readClass m fuel rest
      readClassRest m fuel (p.add item) rest
    | cs => do
      let (item, rest) ← readRange m cs
      readClassRest m fuel (p.add item) rest

end

def nestingLimit : Nat := 250

def setOf? (anyCase : Bool) (cs : List Char) : Option CharSet :=
  let m : ClassMode := ⟨false, anyCase, false⟩
  match cs with
  | '[' :: rest =>
    match readClass m (2 * rest.length + 2) rest with
    | .ok (found, []) => if found.depth ≤ nestingLimit then some found.set else none
    | _ => none
  | '\\' :: rest =>
    match readEscape false rest with
    | .ok (escape, []) => escape.set? m
    | _ => none
  | _ => none

end StepEngine.Pattern
