import StepEngine.Text.Category
import StepEngine.Text.Property
import StepEngine.Text.Recent
/-!
# Letters, digits and words

* `Text.isAlphabetic` : the property Alphabetic;
* `Text.isAlphanumeric` : that property, or a number of any kind;
* `Text.isWordChar` : what words are made of: letters, marks, decimal digits and connectors.

An ASCII character is looked at by itself, any other in the tables. Words are those of patterns, and so
have no recent characters.
-/

namespace StepEngine.Text

/-- The characters with the property Alphabetic. -/
def alphabetic : CharSet := Property.has "alphabetic"

def numeric : CharSet := Category.set ["Nd", "Nl", "No"]

def decimal : CharSet := Category.set ["Nd"]

def wordChars : CharSet :=
  (alphabetic.union (Category.set ["Mn", "Mc", "Me", "Nd", "Pc"])).union
    (Property.has "joincontrol")

def whiteSpace : CharSet := Property.has "whitespace"

/-- The characters with the property Alphabetic, recent ones too. -/
def letters : CharSet := alphabetic.union Recent.alphabetic

def alphanumeric : CharSet := (letters.union numeric).union Recent.numbers

/-- A letter, or another character with the property Alphabetic. -/
def isAlphabetic (c : Char) : Bool :=
  if c.toNat < 128 then c.isAlpha else letters.contains c

def isAlphanumeric (c : Char) : Bool :=
  if c.toNat < 128 then c.isAlphanum else alphanumeric.contains c

def isWordChar (c : Char) : Bool :=
  if c.toNat < 128 then c.isAlphanum || c == '_' else wordChars.contains c

end StepEngine.Text
