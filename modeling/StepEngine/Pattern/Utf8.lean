import Std.Data.HashMap
import Std.Data.HashSet
import StepEngine.Text.CharSet
/-!
# Sets of characters as sequences of bytes

* `Utf8.sequences` : the characters of a range, as sequences of ranges of bytes in UTF-8;
* `Utf8.forward`, `Utf8.backward` : how many states an automaton for the bytes of a set has, and how
  many ways on there are from them, when the bytes are read from the first on or from the last one.

From the first byte on, states from which the same sequences lead to the end are one. From the last one
on, only the states after the same bytes are.
-/

namespace StepEngine.Utf8

open Text (CharSet)

abbrev ByteRange := Nat × Nat

/-- The bytes of a character, where `count` bytes follow the first one. -/
def bytesOf (c : Nat) : (count : Nat) → List Nat
  | 0 => [c]
  | 1 => [0xC0 + c / 64, 0x80 + c % 64]
  | 2 => [0xE0 + c / 4096, 0x80 + c / 64 % 64, 0x80 + c % 64]
  | _ => [0xF0 + c / 262144, 0x80 + c / 4096 % 64, 0x80 + c / 64 % 64, 0x80 + c % 64]

/-- The last character for which `count` bytes follow the first one. -/
def lastWith : (count : Nat) → Nat
  | 0 => 0x7F
  | 1 => 0x7FF
  | 2 => 0xFFFF
  | _ => CharSet.greatest

/-- The two parts of a range that is no single sequence. Its characters differ in the number of their
bytes, or in the bytes before the last `left` ones, though those do not run through all values. -/
def cutBlock? (low high : Nat) : (left : Nat) → (size : Nat) → Option Nat
  | 0, _ => none
  | left + 1, size =>
    if low / size ≠ high / size then
      if low % size ≠ 0 then some ((low / size + 1) * size)
      else if high % size ≠ size - 1 then some (high / size * size)
      else cutBlock? low high left (64 * size)
    else cutBlock? low high left (64 * size)

/-- Where the second part of a range starts that is no single sequence. -/
def cut? (low high : Nat) : Option Nat :=
  match [0, 1, 2].find? fun count => low ≤ lastWith count && lastWith count < high with
  | some count => some (lastWith count + 1)
  | none => if high ≤ 0x7F then none else cutBlock? low high 3 64

/-- The sequences of a range without surrogates. -/
def sequencesFrom : (fuel low high : Nat) → List (List ByteRange)
  | 0, _, _ => []
  | fuel + 1, low, high =>
    if high < low then []
    else
      match cut? low high with
      | some start => sequencesFrom fuel low (start - 1) ++ sequencesFrom fuel start high
      | none =>
        let count := if high ≤ 0x7F then 0 else if high ≤ 0x7FF then 1 else if high ≤ 0xFFFF then 2 else 3
        [(bytesOf low count).zip (bytesOf high count)]

/-- The sequences of a range, ascending. A range is cut at most a few times for each byte. -/
def sequences (range : Nat × Nat) : List (List ByteRange) :=
  sequencesFrom 32 range.1 (min range.2 0xD7FF) ++ sequencesFrom 32 (max range.1 0xE000) range.2

def sequencesOf (s : CharSet) : List (List ByteRange) :=
  s.ranges.toList.flatMap sequences

/-- The number of states, and of ways on from them. -/
structure Extent where
  states : Nat
  ways : Nat

/-! ## From the first byte on -/

/-- The states that have been found, by their ways on, each with its number; the end is number zero. -/
abbrev Known := Std.HashMap (List (ByteRange × Nat)) Nat

/-- The number of a state with these ways on. -/
def stateOf (ways : List (ByteRange × Nat)) : StateM Known Nat := do
  let known ← get
  match known[ways]? with
  | some n => return n
  | none =>
    let n := known.size + 1
    set (known.insert ways n)
    return n

/-- Sequences by their first range: those in a row that start alike are put together, the last first
range first. -/
def byFirst (sequences : List (List ByteRange)) : List (ByteRange × List (List ByteRange)) :=
  sequences.foldl (fun groups sequence =>
    match sequence, groups with
    | first :: rest, (last, rests) :: others =>
      if first = last then (last, rest :: rests) :: others else (first, [rest]) :: groups
    | first :: rest, [] => [(first, [rest])]
    | [], _ => groups) []

/-- The number of the state from which sequences lead to the end. -/
def compileFrom : (fuel : Nat) → List (List ByteRange) → StateM Known Nat
  | 0, _ => return 0
  | fuel + 1, sequences => do
    match byFirst sequences with
    | [] => return 0
    | groups =>
      let ways ← groups.mapM fun (first, rests) => do
        let n ← compileFrom fuel rests.reverse
        return (first, n)
      stateOf ways

/-- The states of an automaton that reads from the first byte on, its end left out. -/
def forward (s : CharSet) : Extent :=
  let known := (compileFrom 5 (sequencesOf s)).run ∅ |>.2
  ⟨known.size, known.fold (fun n ways _ => n + ways.length) 0⟩

/-! ## From the last byte on -/

/-- The states of an automaton that reads from the last byte on, its end left out: one for each way
from the end to a start of a sequence, with a way on to each sequence. -/
def backward (s : CharSet) : Extent :=
  let sequences := sequencesOf s
  let starts := sequences.foldl (fun (seen : Std.HashSet (List ByteRange)) sequence =>
    (List.range sequence.length).foldl (fun seen i => seen.insert (sequence.take (i + 1))) seen) ∅
  ⟨starts.size, sequences.length⟩

end StepEngine.Utf8
