import StepEngine.Number.Double
import StepEngine.SortedMap
/-!
# JSON values

* `Number` : an integer, written without point and exponent, or a double;
* `Json` : a value; the members of an object are a list, in the order in which they are shown;
* `Json.get?`, `Json.item?` : the member with a key, the element at an index;
* `Json.ofMembers` : an object from members in any order, the later of two with one key;
* `Number.units` : the exact value of a number, for comparison.
-/

namespace StepEngine

/-- A JSON number. `1` and `1.0` are two numbers of one value. -/
inductive Number where
  | int (value : Int)
  | double (value : Double)
  deriving DecidableEq, Inhabited

namespace Number

/-- The exact value, in the unit `2 ^ -1074`. -/
def units : Number → Int
  | int i => i * Double.unitsPerOne
  | double d => d.units

def isInteger : Number → Bool
  | int _ => true
  | double d => d.isInteger

/-- The nearest double. The integers a text can hold are far inside the range of a double. -/
def toDouble : Number → Double
  | int i => (Double.ofInt? i).getD Double.zero
  | double d => d

/-- The value of an integer between zero and `2 ^ 64 - 1`. -/
def asWord? : Number → Option Nat
  | int i => if 0 ≤ i ∧ i < Int.pow 2 64 then some i.toNat else none
  | double _ => none

end Number

inductive Json where
  | null
  | bool (value : Bool)
  | number (value : Number)
  | string (value : String)
  | array (items : List Json)
  | object (members : List (String × Json))
  deriving Inhabited

namespace Json

mutual

/-- Equality of values: the integer `1` is not the double `1.0`. -/
def decEq : (a b : Json) → Decidable (a = b)
  | null, null => isTrue rfl
  | bool a, bool b => decidable_of_iff (a = b) (by simp)
  | number a, number b => decidable_of_iff (a = b) (by simp)
  | string a, string b => decidable_of_iff (a = b) (by simp)
  | array a, array b =>
    have := decEqItems a b
    decidable_of_iff (a = b) (by simp)
  | object a, object b =>
    have := decEqMembers a b
    decidable_of_iff (a = b) (by simp)
  | null, bool _ | null, number _ | null, string _ | null, array _ | null, object _
  | bool _, null | bool _, number _ | bool _, string _ | bool _, array _ | bool _, object _
  | number _, null | number _, bool _ | number _, string _ | number _, array _
  | number _, object _ | string _, null | string _, bool _ | string _, number _
  | string _, array _ | string _, object _ | array _, null | array _, bool _
  | array _, number _ | array _, string _ | array _, object _ | object _, null
  | object _, bool _ | object _, number _ | object _, string _ | object _, array _ =>
    isFalse nofun

def decEqItems : (a b : List Json) → Decidable (a = b)
  | [], [] => isTrue rfl
  | [], _ :: _ => isFalse nofun
  | _ :: _, [] => isFalse nofun
  | a :: as, b :: bs =>
    have := decEq a b
    have := decEqItems as bs
    decidable_of_iff (a = b ∧ as = bs) (by simp)

/-- Equality of the members of two objects. -/
def decEqMembers : (a b : List (String × Json)) → Decidable (a = b)
  | [], [] => isTrue rfl
  | [], _ :: _ => isFalse nofun
  | _ :: _, [] => isFalse nofun
  | (k, a) :: as, (l, b) :: bs =>
    have := decEq a b
    have := decEqMembers as bs
    decidable_of_iff (k = l ∧ a = b ∧ as = bs) (by simp [and_assoc])

end

instance : DecidableEq Json := decEq

def ofNat (n : Nat) : Json := number (.int n)

def ofStrings (texts : List String) : Json :=
  array (texts.map string)

/-- An object with its members in ascending order of their keys. -/
def ofMembers (members : List (String × Json)) : Json :=
  object (SortedMap.ofList members).entries

/-- An object with one more member. Any other value stays as it is. -/
def withMember (v : Json) (key : String) (value : Json) : Json :=
  match v with
  | object members => object (SortedMap.insertEntry key value members)
  | other => other

def get? (key : String) : Json → Option Json
  | object members => members.lookup key
  | _ => none

def item? (index : Nat) : Json → Option Json
  | array items => items[index]?
  | _ => none

def asString? : Json → Option String
  | string s => some s
  | _ => none

def asArray? : Json → Option (List Json)
  | array items => some items
  | _ => none

def asObject? : Json → Option (List (String × Json))
  | object members => some members
  | _ => none

/-- The value of an integer between zero and `2 ^ 64 - 1`. -/
def asWord? : Json → Option Nat
  | number n => n.asWord?
  | _ => none

def nonNull? : Json → Option Json
  | null => none
  | v => some v

def isString (v : Json) : Bool := v.asString?.isSome

def isArray (v : Json) : Bool := v.asArray?.isSome

end Json

end StepEngine
