import StepEngine.Text.Ascending
import StepEngine.Text.Category
import StepEngine.Text.Recent
/-!
# Directions of characters

Text runs to the right or to the left. Letters have a direction of their own; numbers, signs and
marks follow what is around them, each kind in its way.

* `Direction` : the kinds of characters;
* `Direction.ofChar` : the kind of a character.
-/

namespace StepEngine.Text

/-- How a character goes with the direction of a text. -/
inductive Direction where
  /-- Letters that run to the right. -/
  | right
  /-- Letters that run to the left. -/
  | left
  /-- Letters of Arabic and its kin, that run to the left. -/
  | arabic
  | arabicNumber
  | number
  /-- Signs between digits and around them. -/
  | numberSign
  /-- Marks on other characters. -/
  | mark
  /-- Signs without a direction. -/
  | neutral
  /-- What parts lines and columns, blanks, and signs that turn the direction. -/
  | control
  deriving DecidableEq, Inhabited

namespace Direction

/-- The kinds of all characters in their order, marks left out, as runs of codes. Characters that are
not in use follow those before them. -/
def table : List String := [
  "BN9S1B1S1WS1B1BN14B3S1WS1ON2ET3ON5ES1CS1ES1CS2EN10CS1ON6L26ON6L26ON4BN6B1BN26CS1ON1ET4ON4L1",
  "ON2BN1ON2ET2EN2ON1L1ON3EN1L1ON5L23ON1L31ON1L449ON2L7ON14L2ON14L5ON9L1ON129L4ON2L8ON1L5ON2L1",
  "ON1L110ON1L403ON5ET47R66AN6ON2AL1ET2AL1CS1AL1ON13AL69AN10ET1AN2AL112AN1ON7AL4ON5AL2EN10AL198",
  "R54ON4R102AL48AN16AL66AN33L239ET2L7ET1L245ET8L250ON6ET1ON7L119ON7L448ET1L250ON4L1106ON16L96",
  "ON1L639WS1L26ON5L315ET1L20ON30BN2L304ON6L152ON34L1469ON1L1ON3L11ON3L13ON3L13ON5L11ON3WS11BN3",
  "L1R1ON24WS1B1LRE1RLE1PDF1LRO1RLO1CS1ET5ON15CS1ON26WS1BN6LRI1RLI1FSI1PDI1BN6EN1L3EN6ES2ON3L1",
  "EN10ES2ON4L16ET96ON2L1ON4L1ON2L10ON1L1ON3L5ON6L1ON1L1ON1L1ON1L4ET1L11ON2L4ON5L5ON4L2ON16L41",
  "ON137ES1ET1ON290L69ON26L1ON242EN20L78ON450L1ON339L256ON768L229ON6L14ON7L256ON512WS1ON4L3ON25",
  "L15ON1L5ON2L5ON4L90ON2L3ON1L90ON1L196ON48L45ON3L48ON16L28ON3L50ON15L12ON4L167ON4L99ON2L31ON1",
  "L6592ON64L22160ON64L317ON3L99ON13L128ON34L102ON1L159ON8L8ET8L52ON12L746ON6L20397R12ES1R38",
  "AL115ON16AL363ON18AL64ON2AL54ON40AL13ON83CS1ON1CS2ON1CS1ON9ET1ON2ES2ON5ET2ON5AL143BN2ON2ET3",
  "ON5ES1CS1ES1CS2EN10CS1ON6L26ON6L26ON11L122ET2ON3ET3ON24L257ON1L62ON77L3ON64L273EN31L1280R287",
  "ON1R537ON7R448AL48AN16R46ON1R241AN32R66AL14ON48R48AL64R144L82ON20L1530ON32L2389ON8ET4ON30",
  "L20451ON1L19645BN3936ON214L26EN10ON598L547BN16L102ON215L64ON96L891ON1L57ON1L57ON1L57ON1L57",
  "ON1L10EN50L2815ET465L816R1137AL639ON528EN11ON5L31ON1L58ON6L61ON57L122ON2448EN10ON1030L786433",
  "BN65535L131072"]

def ofCode : String → Direction
  | "L" => right
  | "R" => left
  | "AL" => arabic
  | "AN" => arabicNumber
  | "EN" => number
  | "ES" | "CS" | "ET" => numberSign
  | "ON" | "BN" => neutral
  | _ => control

def runs : Array (Nat × Direction) :=
  ((Run.readAll table).map fun r => (r.first, ofCode r.label)).toArray

/-- Marks that follow the character they stand on; five others have the direction of letters. -/
def marks : CharSet :=
  ((Category.set ["Mn", "Me"]).union Recent.marks).diff (.ofRanges [(0x0CBF, 0x0CBF),
    (0x0CC6, 0x0CC6), (0x11A07, 0x11A08), (0x11C3F, 0x11C3F)])

def ofChar (c : Char) : Direction :=
  if marks.contains c then mark
  else ((Ascending.lastUpTo? Prod.fst runs c.toNat).map (·.2)).getD right

end Direction

end StepEngine.Text
