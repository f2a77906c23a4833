import StepEngine.Json.Basic
import StepEngine.Text.Hex
import StepEngine.Number.Decimal
/-!
# Compact JSON text

* `Number.render` : an integer in decimal, a double in the standard layout;
* `Json.quote` : a string between quotation marks, its control characters escaped;
* `Json.render` : a value without blanks, members in their order.
-/

namespace StepEngine

def Number.render : Number → String
  | .int i => toString i
  | .double d => Layout.standard.render d

namespace Json

/-- A character inside quotation marks: the mark, the backslash and the control characters below
the blank are escaped. -/
def escape (c : Char) : List Char :=
  if c = '"' then ['\\', '"']
  else if c = '\\' then ['\\', '\\']
  else if c = '\n' then ['\\', 'n']
  else if c = '\r' then ['\\', 'r']
  else if c = '\t' then ['\\', 't']
  else if c.toNat = 8 then ['\\', 'b']
  else if c.toNat = 12 then ['\\', 'f']
  else if c.toNat < 32 then '\\' :: 'u' :: Hex.spell 4 c.toNat
  else [c]

/-- A string between quotation marks. -/
def quote (s : String) : String :=
  String.ofList ('"' :: s.toList.flatMap escape ++ ['"'])

mutual

def render : Json → String
  | null => "null"
  | bool true => "true"
  | bool false => "false"
  | number n => n.render
  | string s => quote s
  | array items => "[" ++ renderItems items ++ "]"
  | object members => "\x7b" ++ renderMembers members ++ "\x7d"

def renderItems : List Json → String
  | [] => ""
  | [v] => render v
  | v :: w :: rest => render v ++ "," ++ renderItems (w :: rest)

def renderMembers : List (String × Json) → String
  | [] => ""
  | [(k, v)] => quote k ++ ":" ++ render v
  | (k, v) :: m :: rest => quote k ++ ":" ++ render v ++ "," ++ renderMembers (m :: rest)

end

end Json

end StepEngine
