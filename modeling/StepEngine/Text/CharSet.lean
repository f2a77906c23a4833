/-!
# Sets of characters

A set is the array of its ranges of code points, ascending and with a gap between any two.

* `CharSet.ofRanges` : the set of ranges in any order;
* `CharSet.contains` : membership, by bisection;
* `CharSet.union`, `inter`, `complement`, `diff`, `symmetricDiff` : the set operations.
-/

namespace StepEngine.Text

structure CharSet where
  ranges : Array (Nat × Nat)
  deriving DecidableEq, Inhabited

namespace CharSet

def greatest : Nat := 0x10FFFF

/-- Ranges in ascending order of their starts, those that overlap or touch put together. -/
def merge : List (Nat × Nat) → List (Nat × Nat)
  | [] => []
  | r :: rest => go r rest
where
  go (current : Nat × Nat) : List (Nat × Nat) → List (Nat × Nat)
    | [] => [current]
    | next :: rest =>
      if next.1 ≤ current.2 + 1 then go (current.1, max current.2 next.2) rest
      else current :: go next rest

/-- The set of ranges in any order. -/
def ofRanges (ranges : List (Nat × Nat)) : CharSet :=
  ⟨(merge (ranges.mergeSort fun a b => a.1 ≤ b.1)).toArray⟩

def single (c : Char) : CharSet := ⟨#[(c.toNat, c.toNat)]⟩

def none : CharSet := ⟨#[]⟩

def all : CharSet := ⟨#[(0, greatest)]⟩

/-- The ranges from `low` up to, not including, `high` are searched for a code point. -/
def search (ranges : Array (Nat × Nat)) (c : Nat) : (fuel low high : Nat) → Bool
  | 0, _, _ => false
  | fuel + 1, low, high =>
    if high ≤ low then false
    else
      let middle := (low + high) / 2
      match ranges[middle]? with
      | some r =>
        if c < r.1 then search ranges c fuel low middle
        else if r.2 < c then search ranges c fuel (middle + 1) high
        else true
      | .none => false

/-- Membership. Each step halves the number of ranges, of which there are fewer than `2 ^ 21`. -/
def contains (s : CharSet) (c : Char) : Bool :=
  search s.ranges c.toNat 22 0 s.ranges.size

def union (a b : CharSet) : CharSet :=
  ofRanges (a.ranges.toList ++ b.ranges.toList)

/-- The gaps between ranges, from a code point on. -/
def gaps : (start : Nat) → List (Nat × Nat) → List (Nat × Nat)
  | start, [] => if start ≤ greatest then [(start, greatest)] else []
  | start, (low, high) :: rest =>
    if start < low then (start, low - 1) :: gaps (high + 1) rest else gaps (high + 1) rest

def complement (s : CharSet) : CharSet :=
  ⟨(gaps 0 s.ranges.toList).toArray⟩

def inter (a b : CharSet) : CharSet :=
  (a.complement.union b.complement).complement

/-- The characters of the first set outside the second. -/
def diff (a b : CharSet) : CharSet :=
  a.inter b.complement

def symmetricDiff (a b : CharSet) : CharSet :=
  (a.diff b).union (b.diff a)

end CharSet

end StepEngine.Text
