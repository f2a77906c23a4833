import Std.Data.HashSet
import StepEngine.Pattern.Regex
/-!
# Preferred matches of regular expressions

* `Way` : a place that a match can reach, and what its groups have matched by then;
* `Regex.ways` : the ways of a regular expression from a way on, the preferred one first.

Of two ways to one place only the preferred one is kept: what follows depends on the place alone. So
there are never more ways than places.
-/

namespace StepEngine

/-- A place that a match can reach, and what the groups have matched by then, the last one first. -/
structure Way where
  place : Nat
  groups : List (Nat × Nat × Nat)

namespace Way

/-- Ways without those to a place that has been reached, by an earlier one too. -/
def distinctFrom : (reached : Std.HashSet Nat) → List Way → List Way
  | _, [] => []
  | reached, w :: rest =>
    if reached.contains w.place then distinctFrom reached rest
    else w :: distinctFrom (reached.insert w.place) rest

/-- Ways without those to a place that an earlier one reaches. -/
def distinct (ways : List Way) : List Way :=
  distinctFrom ∅ ways

def stepAll (step : Way → List Way) (ways : List Way) : List Way :=
  distinct (ways.flatMap step)

def stepTimes (step : Way → List Way) : (count : Nat) → List Way → List Way
  | 0, ways => ways
  | count + 1, ways =>
    match ways with
    | [] => []
    | _ => stepTimes step count (stepAll step ways)

/-- The places where a round of a loop has been started, and where one has been ended. -/
structure Rounds where
  started : Std.HashSet Nat
  ended : Std.HashSet Nat

/-- The ways out of a loop, from ways at the start of a round or at the end of one. At the end of a
round comes another one or the way out. A round is started, and ended, once at each place. -/
def loop (step : Way → List Way) (greedy : Bool) :
    (fuel : Nat) → (atEnd : Bool) → List Way → Rounds → List Way × Rounds
  | 0, _, _, r => ([], r)
  | _, _, [], r => ([], r)
  | fuel + 1, true, w :: rest, r =>
    if r.ended.contains w.place then loop step greedy fuel true rest r
    else
      let r := { r with ended := r.ended.insert w.place }
      let (again, r) := loop step greedy fuel false [w] r
      let (others, r) := loop step greedy fuel true rest r
      (if greedy then again ++ w :: others else w :: again ++ others, r)
  | fuel + 1, false, w :: rest, r =>
    if r.started.contains w.place then loop step greedy fuel false rest r
    else
      let r := { r with started := r.started.insert w.place }
      let (round, r) := loop step greedy fuel true (step w) r
      let (others, r) := loop step greedy fuel false rest r
      (round ++ others, r)

/-- The ways after at most `left` steps. `tried` holds for each place the numbers of steps that have
been left there. -/
def optional (step : Way → List Way) (greedy : Bool) : (left : Nat) → List Way →
    (tried : Std.HashSet (Nat × Nat)) → List Way × Std.HashSet (Nat × Nat)
  | 0, ways, tried => (ways, tried)
  | left + 1, ways, tried =>
    ways.foldl (fun (done, tried) w =>
      if tried.contains (left, w.place) then (done, tried)
      else
        let (further, tried) := optional step greedy left (step w) (tried.insert (left, w.place))
        (done ++ (if greedy then further ++ [w] else w :: further), tried)) ([], tried)

/-- The ways of at least `least` and at most `most` steps. -/
def repeatedly (step : Way → List Way) (size least : Nat) (most : Option Nat) (greedy : Bool)
    (w : Way) : List Way :=
  let fuel := (size + 2) * (size + 2)
  match most with
  | some most => distinct (optional step greedy (most - least) (stepTimes step least [w]) ∅).1
  | none =>
    let out := (loop step greedy (4 * fuel) false (stepTimes step (least - 1) [w]) ⟨∅, ∅⟩).1
    distinct (if least = 0 then if greedy then out ++ [w] else w :: out else out)

end Way

namespace Regex

mutual

/-- The ways of an expression from a way on, the preferred one first. An expression that has to be
matched by trying has none. -/
def ways (text : Array Char) : Regex → Way → List Way
  | empty, w => [w]
  | any lineFeed, w =>
    match text[w.place]? with
    | some c => if lineFeed || c != '\n' then [{ w with place := w.place + 1 }] else []
    | none => []
  | literal c, w => if text[w.place]? == some c then [{ w with place := w.place + 1 }] else []
  | set s, w => if text[w.place]?.any s.contains then [{ w with place := w.place + 1 }] else []
  | assertion a, w => if a.holds text w.place then [w] else []
  | sequence parts, w => waysAlong text parts w
  | either options, w => Way.distinct (waysOfEach text options w)
  | group index inside, w =>
    (inside.ways text w).map fun v => ⟨v.place, (index, w.place, v.place) :: v.groups⟩
  | repeated r least most greedy, w =>
    Way.repeatedly (r.ways text) text.size least most greedy w
  | _, _ => []

def waysAlong (text : Array Char) : List Regex → Way → List Way
  | [], w => [w]
  | r :: rest, w => Way.stepAll (waysAlong text rest) (r.ways text w)

def waysOfEach (text : Array Char) : List Regex → Way → List Way
  | [], _ => []
  | r :: rest, w => r.ways text w ++ waysOfEach text rest w

end

end Regex

end StepEngine
