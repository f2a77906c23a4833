import Std.Data.HashSet
import StepEngine.Pattern.Regex
/-!
# Places that regular expressions reach

* `Regex.reach` : the places where matches end that start at one of several places;
* `Regex.isFoundIn` : whether a text holds a match anywhere.

No place is listed twice. The order of places does not matter, and neither does which match is preferred.
-/

namespace StepEngine

namespace Reach

/-- The places that have not been seen, each once, and what has been seen by then. -/
def unseen (seen : Std.HashSet Nat) (places : List Nat) : List Nat × Std.HashSet Nat :=
  places.foldl (fun (new, seen) p =>
    if seen.contains p then (new, seen) else (p :: new, seen.insert p)) ([], seen)

def distinct (places : List Nat) : List Nat :=
  (unseen ∅ places).1

def times (step : List Nat → List Nat) : (count : Nat) → List Nat → List Nat
  | 0, places => places
  | count + 1, places => if places.isEmpty then [] else times step count (step places)

/-- The places after at most `count` further steps, where `found` holds those so far and `latest` those
that the last step has added. -/
def within (step : List Nat → List Nat) :
    (count : Nat) → (seen : Std.HashSet Nat) → (found latest : List Nat) → List Nat
  | 0, _, found, _ => found
  | count + 1, seen, found, latest =>
    match unseen seen (step latest) with
    | ([], _) => found
    | (new, seen) => within step count seen (new ++ found) new

/-- The places after at least `least` and at most `most` steps. Among `size + 1` places, a place that is
reached is reached in at most `size` further steps. -/
def repeatedly (step : List Nat → List Nat) (size least : Nat) (most : Option Nat)
    (places : List Nat) : List Nat :=
  let first := times step least places
  let further :=
    match most with
    | some most => min size (most - least)
    | none => size
  within step further (Std.HashSet.ofList first) first first

end Reach

namespace Regex

mutual

/-- The places where matches of an expression end that start at one of several places. An expression
that has to be matched by trying reaches none. -/
def reach (text : Array Char) : Regex → List Nat → List Nat
  | empty, places => places
  | any lineFeed, places =>
    (places.filter fun p => text[p]?.any fun c => lineFeed || c != '\n').map (· + 1)
  | literal c, places => (places.filter fun p => text[p]? == some c).map (· + 1)
  | set s, places => (places.filter fun p => text[p]?.any s.contains).map (· + 1)
  | assertion a, places => places.filter (a.holds text)
  | sequence parts, places => reachAlong text parts places
  | either options, places => Reach.distinct (reachEach text options places)
  | group _ inside, places => inside.reach text places
  | repeated r least most _, places => Reach.repeatedly (r.reach text) text.size least most places
  | _, _ => []

def reachAlong (text : Array Char) : List Regex → List Nat → List Nat
  | [], places => places
  | r :: rest, places => reachAlong text rest (r.reach text places)

def reachEach (text : Array Char) : List Regex → List Nat → List Nat
  | [], _ => []
  | r :: rest, places => r.reach text places ++ reachEach text rest places

end

def isFoundIn (r : Regex) (text : String) : Bool :=
  let chars := text.toList.toArray
  !(r.reach chars (List.range (chars.size + 1))).isEmpty

end Regex

end StepEngine
