import StepEngine.Text.Category
import StepEngine.Text.Property
import StepEngine.Text.Script
/-!
# Where text is cut

Three properties sort the characters by how a text is cut: into what is seen as one character, into
words, and into sentences. Most of their classes follow from categories and other properties.

* `Boundary.grapheme?`, `word?`, `sentence?` : the characters of a class, by its name in lower case
  without blanks and marks;
* `Boundary.ofProperty?` : the same for the name of the property.
-/

namespace StepEngine.Text.Boundary

def lineEnd? : String → Option CharSet
  | "cr" => some (.single '\r')
  | "lf" => some (.single '\n')
  | _ => none

/-- Marks and signs that change what stands before them. -/
def extending : CharSet := Property.has "graphemeextend"

/-- Signs of the category Cf that stand before the number they enclose. -/
def prepended : CharSet := Property.has "prependedconcatenationmark"

/-- Flags are pairs of these. -/
def regional : CharSet := Property.has "regionalindicator"

/-- The character that joins what is on its sides. -/
def joiner : CharSet := .ofRanges [(0x200D, 0x200D)]

/-! ## Characters as they are seen -/

/-- Vowels and consonants of Hangul, and the syllables without and with a last consonant. -/
def hangul? : String → Option CharSet
  | "l" => some (.ofRanges [(0x1100, 0x115F), (0xA960, 0xA97C)])
  | "v" => some (.ofRanges [(0x1160, 0x11A7), (0xD7B0, 0xD7C6), (0x16D63, 0x16D63), (0x16D67, 0x16D6A)])
  | "t" => some (.ofRanges [(0x11A8, 0x11FF), (0xD7CB, 0xD7FB)])
  | "lv" => some (.ofRanges ((List.range 399).map fun i => (0xAC00 + 28 * i, 0xAC00 + 28 * i)))
  | "lvt" => some (.ofRanges ((List.range 399).map fun i => (0xAC01 + 28 * i, 0xAC1B + 28 * i)))
  | _ => none

def graphemeExtend : CharSet :=
  extending.union (Property.has "emojimodifier")

/-- Characters that stand alone: controls, line ends, and what is not to be seen. -/
def graphemeControl : CharSet :=
  let unseen := (Category.set ["Cn"]).inter (Property.has "defaultignorablecodepoint")
  let controls := (Category.set ["Zl", "Zp", "Cc", "Cf", "Cs"]).union unseen
  let others := (graphemeExtend.union prepended).union joiner
  (controls.diff others).diff (.ofRanges [(10, 10), (13, 13)])

/-- What belongs to the character after it. -/
def graphemePrepend : CharSet :=
  prepended.union <| .ofRanges [(0x0D4E, 0x0D4E), (0x111C2, 0x111C3), (0x113D1, 0x113D1),
    (0x1193F, 0x1193F), (0x11941, 0x11941), (0x11A84, 0x11A89), (0x11D46, 0x11D46), (0x11F02, 0x11F02)]

/-- Marks with a width that belong to the character before them. -/
def graphemeSpacing : CharSet :=
  let apart : CharSet := .ofRanges [
    (0x102B, 0x102C), (0x1038, 0x1038), (0x1062, 0x1064), (0x1067, 0x106D), (0x1083, 0x1083),
    (0x1087, 0x108C), (0x108F, 0x108F), (0x109A, 0x109C), (0x1A61, 0x1A61), (0x1A63, 0x1A64),
    (0xAA7B, 0xAA7B), (0xAA7D, 0xAA7D), (0x11720, 0x11721)]
  (((Category.set ["Mc"]).diff graphemeExtend).diff apart).union
    (.ofRanges [(0x0E33, 0x0E33), (0x0EB3, 0x0EB3)])

def grapheme? (name : String) : Option CharSet :=
  match name with
  | "control" | "cn" => some graphemeControl
  | "extend" | "ex" => some graphemeExtend
  | "prepend" | "pp" => some graphemePrepend
  | "spacingmark" | "sm" => some graphemeSpacing
  | "regionalindicator" | "ri" => some regional
  | "zwj" => some joiner
  | _ => lineEnd? name <|> hangul? name

/-! ## Words -/

def wordExtend : CharSet :=
  graphemeExtend.union (Category.set ["Mc"])

/-- Signs without a look of their own. -/
def wordFormat : CharSet :=
  ((Category.set ["Cf"]).diff (prepended.union extending)).diff
    (.ofRanges [(0x200B, 0x200B), (0x200D, 0x200D)])

/-- Letters of Katakana and what is written among them. -/
def wordKatakana : CharSet :=
  (Script.set "Kana").union <| .ofRanges [(0x3031, 0x3035), (0x309B, 0x309C), (0x30A0, 0x30A0),
    (0x30FC, 0x30FC), (0xFF70, 0xFF70)]

def wordHebrew : CharSet :=
  (Script.set "Hebr").inter (Category.set ["Lo"])

/-- Digits, and signs that stand before numbers. -/
def wordNumeric : CharSet :=
  ((Category.set ["Nd"]).union (prepended.diff (.ofRanges [(0x070F, 0x070F)]))).union
    (.ofRanges [(0x066B, 0x066B), (0x19DA, 0x19DA)])

/-- Letters of the scripts that put blanks between words. -/
def wordLetter : CharSet :=
  let unspaced := ["Thai", "Laoo", "Khmr", "Mymr", "Tale", "Talu", "Lana", "Tavt", "Ahom", "Hira"]
  let others := Run.set unspaced.contains Script.runs
  let others := (others.union wordExtend).union (wordKatakana.union wordHebrew)
  let others := (others.union (Property.has "ideographic")).union
    (.ofRanges [(0x3005, 0x3005), (0x303B, 0x303B), (0x16FE3, 0x16FE3)])
  ((Property.has "alphabetic").diff others).union <| .ofRanges [
    (0xB8, 0xB8), (0x2C2, 0x2C5), (0x2D2, 0x2D7), (0x2DE, 0x2DF), (0x2E5, 0x2EB), (0x2ED, 0x2ED),
    (0x2EF, 0x2FF), (0x55A, 0x55C), (0x55E, 0x55E), (0x58A, 0x58A), (0x5F3, 0x5F3),
    (0x70F, 0x70F), (0xA708, 0xA716), (0xA720, 0xA721), (0xA789, 0xA78A), (0xAB5B, 0xAB5B)]

/-- Signs between letters or digits. -/
def wordMiddle? : String → Option CharSet
  | "midletter" | "ml" => some <| .ofRanges [
      (0x3A, 0x3A), (0xB7, 0xB7), (0x387, 0x387), (0x55F, 0x55F), (0x5F4, 0x5F4),
      (0x2027, 0x2027), (0xFE13, 0xFE13), (0xFE55, 0xFE55), (0xFF1A, 0xFF1A)]
  | "midnum" | "mn" => some <| .ofRanges [
      (0x2C, 0x2C), (0x3B, 0x3B), (0x37E, 0x37E), (0x589, 0x589), (0x60C, 0x60D), (0x66C, 0x66C),
      (0x7F8, 0x7F8), (0x2044, 0x2044), (0xFE50, 0xFE50), (0xFE54, 0xFE54), (0xFF0C, 0xFF0C),
      (0xFF1B, 0xFF1B)]
  | "midnumlet" | "mb" => some <| .ofRanges [
      (0x2E, 0x2E), (0x2018, 0x2019), (0x2024, 0x2024), (0xFE52, 0xFE52), (0xFF07, 0xFF07),
      (0xFF0E, 0xFF0E)]
  | "extendnumlet" | "ex" => some <| .ofRanges [
      (0x5F, 0x5F), (0x202F, 0x202F), (0x203F, 0x2040), (0x2054, 0x2054), (0xFE33, 0xFE34),
      (0xFE4D, 0xFE4F), (0xFF3F, 0xFF3F)]
  | "singlequote" | "sq" => some (.single '\'')
  | "doublequote" | "dq" => some (.single '"')
  | _ => none

def word? (name : String) : Option CharSet :=
  match name with
  | "aletter" | "le" => some wordLetter
  | "extend" => some wordExtend
  | "format" | "fo" => some wordFormat
  | "hebrewletter" | "hl" => some wordHebrew
  | "katakana" | "ka" => some wordKatakana
  | "newline" | "nl" => some (.ofRanges [(11, 12), (0x85, 0x85), (0x2028, 0x2029)])
  | "numeric" | "nu" => some wordNumeric
  | "regionalindicator" | "ri" => some regional
  | "wsegspace" =>
    some ((Category.set ["Zs"]).diff (.ofRanges [(0xA0, 0xA0), (0x2007, 0x2007), (0x202F, 0x202F)]))
  | "zwj" => some joiner
  | _ => lineEnd? name <|> wordMiddle? name

/-! ## Sentences -/

def sentenceExtend : CharSet :=
  (extending.union (Category.set ["Mc"])).union joiner

/-- Points that may end a sentence. -/
def sentencePoint : CharSet :=
  .ofRanges [(0x2E, 0x2E), (0x2024, 0x2024), (0xFE52, 0xFE52), (0xFF0E, 0xFF0E)]

/-- Letters without a case in modern Georgian text, although they have counterparts. -/
def georgian : CharSet :=
  .ofRanges [(0x10D0, 0x10FA), (0x10FD, 0x10FF), (0x1C90, 0x1CBA), (0x1CBD, 0x1CBF)]

def sentenceLower : CharSet :=
  ((Property.has "lowercase").diff extending).diff georgian

def sentenceUpper : CharSet :=
  ((Property.has "uppercase").union (Category.set ["Lt"])).diff georgian

/-- Letters that are neither small nor capital. -/
def sentenceLetter : CharSet :=
  let others := (sentenceLower.union sentenceUpper).union sentenceExtend
  ((Property.has "alphabetic").diff others).union (.ofRanges [(0x05F3, 0x05F3)])

def sentenceClose : CharSet :=
  let marks := (Property.has "quotationmark").diff (.ofRanges [(0xFF02, 0xFF02), (0xFF07, 0xFF07)])
  ((Category.set ["Ps", "Pe", "Pi", "Pf"]).union marks).union <| .ofRanges [
    (0x275B, 0x2760), (0x2E00, 0x2E01), (0x2E06, 0x2E08), (0x2E0B, 0x2E0B), (0x1F676, 0x1F678)]

def sentence? (name : String) : Option CharSet :=
  let separators : CharSet := .ofRanges [(0x85, 0x85), (0x2028, 0x2029)]
  match name with
  | "aterm" | "at" => some sentencePoint
  | "close" | "cl" => some sentenceClose
  | "extend" | "ex" => some sentenceExtend
  | "format" | "fo" => some (wordFormat.union (.ofRanges [(0x070F, 0x070F), (0x200B, 0x200B)]))
  | "lower" | "lo" => some sentenceLower
  | "numeric" | "nu" => some (wordNumeric.union (.ofRanges [(0x066C, 0x066C)]))
  | "oletter" | "le" => some sentenceLetter
  | "scontinue" | "sc" => some <| .ofRanges [
      (0x2C, 0x2D), (0x3A, 0x3B), (0x37E, 0x37E), (0x55D, 0x55D), (0x60C, 0x60D), (0x7F8, 0x7F8),
      (0x1802, 0x1802), (0x1808, 0x1808), (0x2013, 0x2014), (0x3001, 0x3001), (0xFE10, 0xFE11),
      (0xFE13, 0xFE14), (0xFE31, 0xFE32), (0xFE50, 0xFE51), (0xFE54, 0xFE55), (0xFE58, 0xFE58),
      (0xFE63, 0xFE63), (0xFF0C, 0xFF0D), (0xFF1A, 0xFF1B), (0xFF64, 0xFF64)]
  | "sep" | "se" => some separators
  | "sp" =>
    some (((Property.has "whitespace").diff separators).diff (.ofRanges [(10, 10), (13, 13)]))
  | "sterm" | "st" => some ((Property.has "sentenceterminal").diff sentencePoint)
  | "upper" | "up" => some sentenceUpper
  | _ => lineEnd? name

/-! ## By property -/

/-- The characters of a class, by the names of the property and the class. -/
def ofProperty? (property name : String) : Option CharSet :=
  match property with
  | "graphemeclusterbreak" | "gcb" => grapheme? name
  | "wordbreak" | "wb" => word? name
  | "sentencebreak" | "sb" => sentence? name
  | _ => none

end StepEngine.Text.Boundary
