import StepEngine.Text.Age
import StepEngine.Text.Boundary
import StepEngine.Text.Combining
import StepEngine.Text.Contributory
/-!
# Properties of characters in patterns

* `Pattern.plainName` : a name without blanks, marks, case, and the prefix `is`;
* `Pattern.property?` : the characters of `\p` with a name, such as `L`, `Greek` or `gc=Lu`.
-/

namespace StepEngine.Pattern

/-- The letters and signs of a name that count. -/
def plainLetters (cs : List Char) : List Char :=
  (cs.filter fun c => c != ' ' && c != '_' && c != '-' && c.toNat < 128).map Char.toLower

/-- A name without blanks, marks, case, and the prefix `is`. What is left of `isc` is the name of a
property, not of the category `c`. -/
def plainName (cs : List Char) : String :=
  match cs with
  | i :: s :: rest =>
    if i.toLower = 'i' && s.toLower = 's' then
      let plain := plainLetters rest
      String.ofList (if plain = ['c'] then ['i', 's', 'c'] else plain)
    else String.ofList (plainLetters cs)
  | _ => String.ofList (plainLetters cs)

def category? (name : String) : Option Text.CharSet :=
  match name with
  | "any" => some .all
  | "ascii" => some ⟨#[(0, 127)]⟩
  | "assigned" => some (Text.Category.set ["Cn"]).complement
  | _ => Text.Category.ofName? name

/-- The characters of a property that has no table of its own. -/
def derived? (name : String) : Option Text.CharSet :=
  match name with
  | "graphemelink" | "grlink" => some Text.viramas
  | _ => Text.Contributory.ofName? name

/-- The characters of a property, a category or a script. Three names of categories are also short
names of properties that are no sets. -/
def named? (name : String) : Option Text.CharSet :=
  let own := if name = "cf" ∨ name = "sc" ∨ name = "lc" then none else Text.Property.ofName? name
  own <|> derived? name <|> category? name <|>
    (Text.Script.ofName? name).map Text.Script.set

def valued? (property value : String) : Option Text.CharSet :=
  match property with
  | "gc" | "generalcategory" => category? value
  | "sc" | "script" => (Text.Script.ofName? value).map Text.Script.set
  | "scx" | "scriptextensions" => (Text.Script.ofName? value).map Text.Script.extensionSet
  | "age" => Text.Age.upTo? value
  | _ => Text.Boundary.ofProperty? property value

/-- The parts of a list around the first sign of an equation. -/
def equation? : List Char → Option (List Char × Bool × List Char)
  | [] => none
  | '!' :: '=' :: value => some ([], true, value)
  | c :: rest => (equation? rest).map fun (name, negated, value) => (c :: name, negated, value)

/-- The parts of a list around the first of a sign. -/
def cutAt? (sign : Char) (cs : List Char) : Option (List Char × List Char) :=
  let name := cs.takeWhile (· != sign)
  match cs.drop name.length with
  | _ :: value => some (name, value)
  | [] => none

/-- The characters of a property by what stands between the braces, and whether it asks for the
others. -/
def property? (cs : List Char) : Option (Text.CharSet × Bool) :=
  match equation? cs with
  | some (name, negated, value) => (valued? (plainName name) (plainName value)).map (·, negated)
  | none =>
    match cutAt? ':' cs <|> cutAt? '=' cs with
    | some (name, value) => (valued? (plainName name) (plainName value)).map (·, false)
    | none => (named? (plainName cs)).map (·, false)

end StepEngine.Pattern
