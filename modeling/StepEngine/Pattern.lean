import StepEngine.Pattern.Grammar
import StepEngine.Pattern.Reach
import StepEngine.Pattern.Search
import StepEngine.Pattern.Strict
/-!
# Patterns

* `Pattern` : a text that is a pattern, with its expression and what it takes to search for it;
* `Pattern.read?` : the pattern that a text spells;
* `Pattern.search` : whether a pattern is found in a text.

A pattern without look-around, back-references and the like is matched without trying, so its search
always ends with an answer.
-/

namespace StepEngine

inductive SearchPlan where
  | direct (r : Regex)
  | trying (program : Array Instruction) (slots : Nat)

namespace SearchPlan

/-- The plan for an expression with `groups` groups, some of which back-references name. -/
def of? (r : Regex) (groups : Nat) (awaited : List Nat) : Option SearchPlan :=
  if r.isHard awaited then (r.program? groups awaited).map fun (program, slots) => .trying program slots
  else if r.isSmall then some (.direct r)
  else none

end SearchPlan

structure Pattern where
  shown : String
  plan : SearchPlan

namespace Pattern

def read? (text : String) : Option Pattern := do
  let shown ← spelling? text
  let found ← readRegex? shown
  let plan ← SearchPlan.of? found.regex found.groups found.awaited
  some ⟨shown, plan⟩

def search (p : Pattern) (text : String) : Except SearchFault Bool :=
  match p.plan with
  | .direct r => .ok (r.isFoundIn text)
  | .trying program slots => runProgram program slots text

end Pattern

end StepEngine
