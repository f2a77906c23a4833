import StepEngine.Hostname.Label
/-!
# Names of machines

* `Hostname.isAscii` : names in ASCII;
* `Hostname.isInternational` : names in all scripts, that have a form in ASCII.
-/

namespace StepEngine.Hostname

/-- Labels with full stops between them. -/
def isAscii (cs : List Char) : Bool :=
  cs.length ≤ 253 && (Text.split (· == '.') cs).all Label.isAscii

/-! ## Characters in their place

Some characters are only written beside others. -/

/-- A character that is in its place between two others. -/
def isInPlace (before : Option Char) (c : Char) (after : Option Char) : Bool :=
  let isWithin := fun (first last : Nat) (c : Char) => first ≤ c.toNat && c.toNat ≤ last
  match c.toNat with
  | 0x200D => before.any Text.isVirama
  | 0x00B7 => before == some 'l' && after == some 'l'
  | 0x0375 => after.any (isWithin 0x0370 0x03FF)
  | 0x05F3 | 0x05F4 => before.any (isWithin 0x0590 0x05FF)
  | 0x0640 | 0x07FA | 0x302E | 0x302F | 0x303B => false
  | n => n < 0x3031 || 0x3035 < n

def areInPlace : (before : Option Char) → List Char → Bool
  | _, [] => true
  | before, c :: rest => isInPlace before c rest.head? && areInPlace (some c) rest

def isJapanese (c : Char) : Bool :=
  let n := c.toNat
  (0x3040 ≤ n && n ≤ 0x30FF && n != 0x30FB) || (0x4E00 ≤ n && n ≤ 0x9FFF)

/-- The middle dot of Katakana needs a letter that it goes with. -/
def hasSoundMiddleDot (cs : List Char) : Bool :=
  cs.all (·.toNat != 0x30FB) || cs.any isJapanese

/-- The two kinds of Arabic digits are not mixed. -/
def hasSoundDigits (cs : List Char) : Bool :=
  cs.all (fun c => c.toNat < 0x0660 || 0x0669 < c.toNat) ||
    cs.all (fun c => c.toNat < 0x06F0 || 0x06F9 < c.toNat)

/-! ## Names -/

/-- The labels of a name in any spelling. -/
def labels? (cs : List Char) : Option (List Label) :=
  (Mapping.plain? cs).bind fun plain => (Text.split (· == '.') (Text.composed plain)).mapM Label.read?

/-- A name that has a form in ASCII, and characters that are in their place. -/
def isInternational (cs : List Char) : Bool :=
  match labels? cs with
  | none => false
  | some labels =>
    let shown := ['.'].intercalate (labels.map Label.shown)
    labels.all Label.isSound &&
      (['.'].intercalate (labels.map Label.sent)).length ≤ 253 &&
      (!shown.any Label.turns || labels.all fun l => Label.hasSoundDirection l.shown) &&
      areInPlace none shown && hasSoundMiddleDot shown && hasSoundDigits shown

end StepEngine.Hostname
