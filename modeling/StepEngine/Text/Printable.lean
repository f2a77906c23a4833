import StepEngine.Text.Category
import StepEngine.Text.Property
import StepEngine.Text.Recent
/-!
# Characters shown as they are, and debug quotation

A character is hidden when its general category is a control, format, surrogate, private use or
unassigned one, or a separator other than the blank, or when it has the property Grapheme_Extend or
Default_Ignorable_Code_Point. The two halfwidth voiced marks extend a grapheme, but are shown.

* `Text.hidden` : the hidden characters;
* `Text.isHidden` : the test;
* `Text.debugQuote` : a text between quotation marks, with every hidden character as a number.
-/

namespace StepEngine.Text

def hidden : CharSet :=
  let unseen := Category.set ["Cc", "Cf", "Cs", "Co", "Cn", "Zl", "Zp", "Zs"]
  let attached := (Property.has "graphemeextend").union (Property.has "defaultignorablecodepoint")
  (unseen.union attached).diff (Recent.shown.union (.ofRanges [(0x20, 0x20), (0xFF9E, 0xFF9F)]))

def isHidden (c : Char) : Bool :=
  if c.toNat < 127 then c.toNat < 32 else hidden.contains c

def debugEscape (c : Char) : List Char :=
  if c.toNat = 0 then ['\\', '0']
  else if c = '\t' then ['\\', 't']
  else if c = '\r' then ['\\', 'r']
  else if c = '\n' then ['\\', 'n']
  else if c = '"' then ['\\', '"']
  else if c = '\\' then ['\\', '\\']
  else if isHidden c then
    '\\' :: 'u' :: '\x7b' :: (Nat.toDigits 16 c.toNat ++ ['\x7d'])
  else [c]

/-- A text between quotation marks, its marks, backslashes and hidden characters escaped. -/
def debugQuote (s : String) : String :=
  String.ofList ('"' :: s.toList.flatMap debugEscape ++ ['"'])

end StepEngine.Text
