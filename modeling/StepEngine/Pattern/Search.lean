import StepEngine.Pattern.Program
import StepEngine.Pattern.Way
/-!
# Searches by trying

* `Try` : a place in a program and in a text, and what has been kept by then;
* `SearchFault` : why a search is given up;
* `Search.step` : one instruction;
* `runProgram` : the search of a text by a program.

A search goes on with one try; the others wait, the last one first. When a try fails, the last one that
waits takes its place with all that it had kept. A search is given up when that happens too often or when
too many tries wait.
-/

namespace StepEngine

/-- A place in a program and in a text, the slots by then, and how many tries waited at each open
`mark`, the last one first. -/
structure Try where
  address : Nat
  place : Nat
  slots : Array (Option Nat)
  marks : List Nat

inductive SearchFault where
  | tooManyFailures
  | tooManyWaiting
  deriving DecidableEq

namespace SearchFault

def message : SearchFault → String
  | tooManyFailures => "Error executing regex: Max limit for backtracking count exceeded"
  | tooManyWaiting => "Error executing regex: Max stack size exceeded for backtracking"

end SearchFault

/-- A search: the tries that wait, how many they are, and how many tries have failed. -/
structure Search where
  waiting : List Try
  height : Nat
  failures : Nat

namespace Search

def failureLimit : Nat := 1000000

def heightLimit : Nat := 1000000

/-- What comes after one instruction: on with a try, or another one, as this one has failed. -/
inductive Next where
  | go (t : Try) (s : Search)
  | failed (s : Search)
  | givenUp (fault : SearchFault)

/-- On with one try while another one waits. -/
def await (s : Search) (t other : Try) : Next :=
  if s.height < heightLimit then .go t { s with waiting := other :: s.waiting, height := s.height + 1 }
  else .givenUp .tooManyWaiting

/-- Only the first `height` tries wait. -/
def cut (s : Search) (height : Nat) : Search :=
  { s with waiting := s.waiting.drop (s.height - height), height := height }

/-- No try waits up to the last one that would go on at an address. -/
def cutTo (s : Search) (address : Nat) : Search :=
  let count := s.waiting.findIdx (·.address == address) + 1
  s.cut (s.height - count)

end Search

namespace Try

def target (t : Try) (distance : Int) : Nat := (t.address + distance).toNat

/-- What is kept in a slot. -/
def kept (t : Try) (slot : Nat) : Option Nat := (t.slots[slot]?).join

def keep (t : Try) (slot place : Nat) : Try :=
  { t with slots := t.slots.setIfInBounds slot (some place) }

/-- The places that a way's group has in its slots, or none. -/
def keepGroup (way : Way) (slots : Array (Option Nat)) (index : Nat) : Array (Option Nat) :=
  let found := way.groups.lookup index
  (slots.setIfInBounds (2 * index) (found.map (·.1))).setIfInBounds (2 * index + 1) (found.map (·.2))

def groupText? (t : Try) (text : Array Char) (index : Nat) : Option (Array Char) := do
  let start ← t.kept (2 * index)
  let stop ← t.kept (2 * index + 1)
  some (text.extract start stop)

/-- The tries of a loop after `rounds` rounds: another round or, once there have been enough, the way
out as well. -/
def inLoop (t : Try) (s : Search) (least rounds : Nat) (greedy : Bool) (out counter : Nat) :
    Search.Next :=
  let next := { (t.keep counter (rounds + 1)) with address := t.address + 1 }
  if rounds < least then .go next s
  else
    let leave := { next with address := out }
    if greedy then s.await next leave else s.await leave next

end Try

def Search.step (text : Array Char) (s : Search) (t : Try) (instruction : Instruction) :
    Search.Next :=
  let next := { t with address := t.address + 1 }
  match instruction with
  | .run r groups =>
    match r.ways text ⟨t.place, []⟩ with
    | way :: _ =>
      .go { next with place := way.place, slots := groups.foldl (Try.keepGroup way) t.slots } s
    | [] => .failed s
  | .fork first second =>
    s.await { t with address := t.target first } { t with address := t.target second }
  | .jump distance => .go { t with address := t.target distance } s
  | .save slot => .go (next.keep slot t.place) s
  | .clear slot => .go (next.keep slot 0) s
  | .restore slot => .go { next with place := (t.kept slot).getD t.place } s
  | .round least most greedy out counter =>
    let rounds := (t.kept counter).getD 0
    if most = some rounds then .go { t with address := t.target out } s
    else t.inLoop s least rounds greedy (t.target out) counter
  | .emptyRound least greedy out counter start =>
    let rounds := (t.kept counter).getD 0
    if least < rounds ∧ t.kept start = some t.place then .failed s
    else
      let t := if rounds < least then t else t.keep start t.place
      t.inLoop s least rounds greedy (t.target out) counter
  | .back count => if count ≤ t.place then .go { next with place := t.place - count } s else .failed s
  | .refuse => .failed (s.cutTo next.address)
  | .same index =>
    match t.groupText? text index with
    | some found =>
      let stop := t.place + found.size
      if text.extract t.place stop = found then .go { next with place := stop } s else .failed s
    | none => .failed s
  | .matched index => if (t.kept (2 * index)).isSome then .go next s else .failed s
  | .mark => .go { next with marks := s.height :: t.marks } s
  | .commit =>
    match t.marks with
    | height :: marks => .go { next with marks := marks } (s.cut height)
    | [] => .go next s
  | .searchStart => if t.place = 0 then .go next s else .failed s

def Search.run (program : Array Instruction) (text : Array Char) :
    (fuel : Nat) → Search → Try → Except SearchFault Bool
  | 0, _, _ => .error .tooManyFailures
  | fuel + 1, s, t =>
    match program[t.address]? with
    | none => .ok true
    | some instruction =>
      match s.step text t instruction with
      | .go t s => run program text fuel s t
      | .givenUp fault => .error fault
      | .failed s =>
        match s.waiting with
        | [] => .ok false
        | other :: waiting =>
          if s.failures < failureLimit then
            run program text fuel ⟨waiting, s.height - 1, s.failures + 1⟩ other
          else .error .tooManyFailures

/-- A bound on the number of instructions of a search. The limits end a search long before, unless it
counts its way through a loop without anything to try. -/
def Search.stepLimit : Nat := Nat.pow 2 40

def runProgram (program : Array Instruction) (slots : Nat) (text : String) : Except SearchFault Bool :=
  let start : Try := ⟨0, 0, Array.replicate slots none, []⟩
  Search.run program text.toList.toArray Search.stepLimit ⟨[], 0, 0⟩ start

end StepEngine
