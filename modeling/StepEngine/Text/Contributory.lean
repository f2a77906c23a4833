import StepEngine.Text.Category
import StepEngine.Text.Property
/-!
# Contributory properties

A property such as Alphabetic is made of whole categories and of some characters more. The latter
are a property of their own, with `Other` in its name.

* `Contributory.ofName?` : the characters with such a property, by its name.
-/

namespace StepEngine.Text.Contributory

/-- The characters with a property outside some categories. -/
def beyond (property : String) (categories : List String) : CharSet :=
  (Property.has property).diff (Category.set categories)

/-- The letters, and the numbers that are letters. -/
def letters : List String := ["Lu", "Ll", "Lt", "Lm", "Lo", "Nl"]

/-- The characters with a contributory property, by its name in lower case without blanks and
marks. -/
def ofName? : String → Option CharSet
  | "otheralphabetic" | "oalpha" => some (beyond "alphabetic" letters)
  | "otherdefaultignorablecodepoint" | "odi" =>
    some ((beyond "defaultignorablecodepoint" ["Cf"]).diff (Property.has "variationselector"))
  | "othergraphemeextend" | "ogrext" => some (beyond "graphemeextend" ["Mn", "Me"])
  | "otheridcontinue" | "oidc" =>
    some ((beyond "idcontinue" ["Mn", "Mc", "Nd", "Pc"]).diff (Property.has "idstart"))
  | "otheridstart" | "oids" => some (beyond "idstart" letters)
  | "otherlowercase" | "olower" => some (beyond "lowercase" ["Ll"])
  | "othermath" | "omath" => some (beyond "math" ["Sm"])
  | "otheruppercase" | "oupper" => some (beyond "uppercase" ["Lu"])
  | _ => none

end StepEngine.Text.Contributory
