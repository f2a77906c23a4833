import StepEngine.Sha1
import StepEngine.Text.Hex
/-!
# Universally unique identifiers

* `Uuid` : 128 bits;
* `Uuid.simple`, `Uuid.hyphenated` : the two texts of an identifier;
* `Uuid.parse?` : the identifier of a text: 32 digits, the hyphenated form, that form in braces or
  after `urn:uuid:`, digits in any case;
* `Uuid.random` : an identifier of version 4 from 128 bits of any source;
* `Uuid.named` : the identifier of version 5 of a name in a namespace.
-/

namespace StepEngine

structure Uuid where
  bits : BitVec 128
  deriving DecidableEq

namespace Uuid

instance : Inhabited Uuid := ⟨⟨0⟩⟩

def ofNat (n : Nat) : Uuid := ⟨BitVec.ofNat 128 n⟩

def toNat (u : Uuid) : Nat := u.bits.toNat

def digits (u : Uuid) : List Char := Hex.spell 32 u.toNat

def simple (u : Uuid) : String := String.ofList u.digits

def hyphenated (u : Uuid) : String :=
  let ds := u.digits
  String.ofList (ds.take 8 ++ '-' :: (ds.drop 8).take 4 ++ '-' :: (ds.drop 12).take 4 ++
    '-' :: (ds.drop 16).take 4 ++ '-' :: ds.drop 20)

/-- Sets the version and the variant. -/
def stamp (version : Nat) (n : Nat) : Uuid :=
  let high := n / Nat.pow 2 80 % Nat.pow 2 48
  let middle := n / Nat.pow 2 64 % Nat.pow 2 12
  let low := n % Nat.pow 2 62
  ofNat (high * Nat.pow 2 80 + version * Nat.pow 2 76 + middle * Nat.pow 2 64 + Nat.pow 2 63 + low)

/-- An identifier of version 4: all other bits come from the source. -/
def random (source : BitVec 128) : Uuid := stamp 4 source.toNat

def version (u : Uuid) : Nat := u.toNat / Nat.pow 2 76 % 16

def ofDigits? (ds : List Char) : Option Uuid :=
  if ds.length = 32 ∧ ds.all Hex.isDigit then some (ofNat (Hex.number ds)) else none

def ofHyphenated? (cs : List Char) : Option Uuid :=
  let hyphens := [8, 13, 18, 23]
  if cs.length = 36 ∧ hyphens.all (fun i => cs[i]? == some '-') then
    ofDigits? (cs.take 8 ++ (cs.drop 9).take 4 ++ (cs.drop 14).take 4 ++ (cs.drop 19).take 4 ++
      cs.drop 24)
  else none

def parse? (s : String) : Option Uuid :=
  let cs := s.toList
  if cs.length = 32 then ofDigits? cs
  else if cs.length = 36 then ofHyphenated? cs
  else if cs.length = 38 ∧ cs.head? = some '\x7b' ∧ cs.getLast? = some '\x7d' then
    ofHyphenated? ((cs.drop 1).take 36)
  else if cs.length = 45 ∧ cs.take 9 = "urn:uuid:".toList then ofHyphenated? (cs.drop 9)
  else none

/-- The identifier of a name in a namespace. -/
def named (space : Uuid) (name : String) : Uuid :=
  let bytes := Sha1.bytesOf 16 space.toNat ++ name.toUTF8.toList
  stamp 5 (Sha1.numberOf ((Sha1.digest bytes).take 16))

end Uuid

def stepNamespace : Uuid := .ofNat 0x7f1c3ff29b004d0abdd7efb8bca49d4f

/-- The identifier of the step whose source is a file. -/
def stepId (path : String) : Uuid := .named stepNamespace path

end StepEngine
