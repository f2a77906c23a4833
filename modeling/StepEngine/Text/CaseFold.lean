import StepEngine.Text.CharSet
/-!
# Simple case folding

* `CaseFold.rows` : which characters are folded to which;
* `CaseFold.acrossRange` : the variants of the characters of a range, in one step;
* `CharSet.foldCase` : a set with all variants of its characters.
-/

namespace StepEngine.Text

namespace CaseFold

/-- Characters that are folded: the first of a row, how many there are, the distance from one to the
next, and what the first is folded to. The others are folded to characters in the same distance. -/
def rows : List (Nat × Nat × Nat × Nat) := [
  (0x41, 26, 1, 0x61), (0xC0, 23, 1, 0xE0), (0xD8, 7, 1, 0xF8), (0xDF, 1, 1, 0x1E9E),
  (0xFF, 1, 1, 0x178), (0x100, 24, 2, 0x101), (0x132, 3, 2, 0x133), (0x139, 8, 2, 0x13A),
  (0x14A, 23, 2, 0x14B), (0x179, 3, 2, 0x17A), (0x17F, 1, 1, 0x73), (0x180, 1, 1, 0x243),
  (0x181, 1, 1, 0x253), (0x182, 2, 2, 0x183), (0x186, 1, 1, 0x254), (0x187, 1, 1, 0x188),
  (0x189, 2, 1, 0x256), (0x18B, 1, 1, 0x18C), (0x18E, 1, 1, 0x1DD), (0x18F, 1, 1, 0x259),
  (0x190, 1, 1, 0x25B), (0x191, 1, 1, 0x192), (0x193, 1, 1, 0x260), (0x194, 1, 1, 0x263),
  (0x195, 1, 1, 0x1F6), (0x196, 1, 1, 0x269), (0x197, 1, 1, 0x268), (0x198, 1, 1, 0x199),
  (0x19A, 1, 1, 0x23D), (0x19B, 1, 1, 0xA7DC), (0x19C, 1, 1, 0x26F), (0x19D, 1, 1, 0x272),
  (0x19E, 1, 1, 0x220), (0x19F, 1, 1, 0x275), (0x1A0, 3, 2, 0x1A1), (0x1A6, 1, 1, 0x280),
  (0x1A7, 1, 1, 0x1A8), (0x1A9, 1, 1, 0x283), (0x1AC, 1, 1, 0x1AD), (0x1AE, 1, 1, 0x288),
  (0x1AF, 1, 1, 0x1B0), (0x1B1, 2, 1, 0x28A), (0x1B3, 2, 2, 0x1B4), (0x1B7, 1, 1, 0x292),
  (0x1B8, 1, 1, 0x1B9), (0x1BC, 1, 1, 0x1BD), (0x1BF, 1, 1, 0x1F7), (0x1C4, 1, 1, 0x1C6),
  (0x1C5, 1, 1, 0x1C6), (0x1C7, 1, 1, 0x1C9), (0x1C8, 1, 1, 0x1C9), (0x1CA, 1, 1, 0x1CC),
  (0x1CB, 9, 2, 0x1CC), (0x1DE, 9, 2, 0x1DF), (0x1F1, 1, 1, 0x1F3), (0x1F2, 2, 2, 0x1F3),
  (0x1F8, 20, 2, 0x1F9), (0x222, 9, 2, 0x223), (0x23A, 1, 1, 0x2C65), (0x23B, 1, 1, 0x23C),
  (0x23E, 1, 1, 0x2C66), (0x23F, 2, 1, 0x2C7E), (0x241, 1, 1, 0x242), (0x244, 1, 1, 0x289),
  (0x245, 1, 1, 0x28C), (0x246, 5, 2, 0x247), (0x250, 1, 1, 0x2C6F), (0x251, 1, 1, 0x2C6D),
  (0x252, 1, 1, 0x2C70), (0x25C, 1, 1, 0xA7AB), (0x261, 1, 1, 0xA7AC), (0x264, 1, 1, 0xA7CB),
  (0x265, 1, 1, 0xA78D), (0x266, 1, 1, 0xA7AA), (0x26A, 1, 1, 0xA7AE), (0x26B, 1, 1, 0x2C62),
  (0x26C, 1, 1, 0xA7AD), (0x271, 1, 1, 0x2C6E), (0x27D, 1, 1, 0x2C64), (0x282, 1, 1, 0xA7C5),
  (0x287, 1, 1, 0xA7B1), (0x29D, 1, 1, 0xA7B2), (0x29E, 1, 1, 0xA7B0), (0x370, 2, 2, 0x371),
  (0x376, 1, 1, 0x377), (0x37B, 3, 1, 0x3FD), (0x37F, 1, 1, 0x3F3), (0x386, 1, 1, 0x3AC),
  (0x388, 3, 1, 0x3AD), (0x38C, 1, 1, 0x3CC), (0x38E, 2, 1, 0x3CD), (0x390, 1, 1, 0x1FD3),
  (0x391, 8, 1, 0x3B1), (0x399, 1, 1, 0x345), (0x39A, 2, 1, 0x3BA), (0x39C, 1, 1, 0xB5),
  (0x39D, 5, 1, 0x3BD), (0x3A3, 9, 1, 0x3C3), (0x3B0, 1, 1, 0x1FE3), (0x3B9, 1, 1, 0x345),
  (0x3BC, 1, 1, 0xB5), (0x3C2, 1, 1, 0x3C3), (0x3CF, 1, 1, 0x3D7), (0x3D0, 1, 1, 0x3B2),
  (0x3D1, 1, 1, 0x3B8), (0x3D5, 1, 1, 0x3C6), (0x3D6, 1, 1, 0x3C0), (0x3D8, 12, 2, 0x3D9),
  (0x3F0, 1, 1, 0x3BA), (0x3F1, 1, 1, 0x3C1), (0x3F2, 1, 1, 0x3F9), (0x3F4, 1, 1, 0x3B8),
  (0x3F5, 1, 1, 0x3B5), (0x3F7, 1, 1, 0x3F8), (0x3FA, 1, 1, 0x3FB), (0x400, 16, 1, 0x450),
  (0x410, 32, 1, 0x430), (0x460, 17, 2, 0x461), (0x48A, 27, 2, 0x48B), (0x4C0, 1, 1, 0x4CF),
  (0x4C1, 7, 2, 0x4C2), (0x4D0, 48, 2, 0x4D1), (0x531, 38, 1, 0x561), (0x10A0, 38, 1, 0x2D00),
  (0x10C7, 1, 1, 0x2D27), (0x10CD, 1, 1, 0x2D2D), (0x10D0, 43, 1, 0x1C90),
  (0x10FD, 3, 1, 0x1CBD), (0x13A0, 80, 1, 0xAB70), (0x13F0, 6, 1, 0x13F8), (0x1C80, 1, 1, 0x432),
  (0x1C81, 1, 1, 0x434), (0x1C82, 1, 1, 0x43E), (0x1C83, 2, 1, 0x441), (0x1C85, 1, 1, 0x442),
  (0x1C86, 1, 1, 0x44A), (0x1C87, 1, 1, 0x463), (0x1C89, 1, 1, 0x1C8A), (0x1D79, 1, 1, 0xA77D),
  (0x1D7D, 1, 1, 0x2C63), (0x1D8E, 1, 1, 0xA7C6), (0x1E00, 75, 2, 0x1E01),
  (0x1E9B, 1, 1, 0x1E61), (0x1EA0, 48, 2, 0x1EA1), (0x1F00, 8, 1, 0x1F08),
  (0x1F10, 6, 1, 0x1F18), (0x1F20, 8, 1, 0x1F28), (0x1F30, 8, 1, 0x1F38), (0x1F40, 6, 1, 0x1F48),
  (0x1F51, 4, 2, 0x1F59), (0x1F60, 8, 1, 0x1F68), (0x1F70, 2, 1, 0x1FBA), (0x1F72, 4, 1, 0x1FC8),
  (0x1F76, 2, 1, 0x1FDA), (0x1F78, 2, 1, 0x1FF8), (0x1F7A, 2, 1, 0x1FEA), (0x1F7C, 2, 1, 0x1FFA),
  (0x1F80, 8, 1, 0x1F88), (0x1F90, 8, 1, 0x1F98), (0x1FA0, 8, 1, 0x1FA8), (0x1FB0, 2, 1, 0x1FB8),
  (0x1FB3, 1, 1, 0x1FBC), (0x1FBE, 1, 1, 0x345), (0x1FC3, 1, 1, 0x1FCC), (0x1FD0, 2, 1, 0x1FD8),
  (0x1FE0, 2, 1, 0x1FE8), (0x1FE5, 1, 1, 0x1FEC), (0x1FF3, 1, 1, 0x1FFC), (0x2126, 1, 1, 0x3C9),
  (0x212A, 1, 1, 0x6B), (0x212B, 1, 1, 0xE5), (0x2132, 1, 1, 0x214E), (0x2160, 16, 1, 0x2170),
  (0x2183, 1, 1, 0x2184), (0x24B6, 26, 1, 0x24D0), (0x2C00, 48, 1, 0x2C30),
  (0x2C60, 1, 1, 0x2C61), (0x2C67, 3, 2, 0x2C68), (0x2C72, 1, 1, 0x2C73), (0x2C75, 1, 1, 0x2C76),
  (0x2C80, 50, 2, 0x2C81), (0x2CEB, 2, 2, 0x2CEC), (0x2CF2, 1, 1, 0x2CF3),
  (0xA640, 5, 2, 0xA641), (0xA64A, 1, 1, 0x1C88), (0xA64B, 1, 1, 0x1C88),
  (0xA64C, 17, 2, 0xA64D), (0xA680, 14, 2, 0xA681), (0xA722, 7, 2, 0xA723),
  (0xA732, 31, 2, 0xA733), (0xA779, 2, 2, 0xA77A), (0xA77E, 5, 2, 0xA77F),
  (0xA78B, 1, 1, 0xA78C), (0xA790, 2, 2, 0xA791), (0xA794, 1, 1, 0xA7C4),
  (0xA796, 10, 2, 0xA797), (0xA7B3, 1, 1, 0xAB53), (0xA7B4, 8, 2, 0xA7B5),
  (0xA7C7, 2, 2, 0xA7C8), (0xA7CC, 1, 1, 0xA7CD), (0xA7D0, 1, 1, 0xA7D1), (0xA7D6, 3, 2, 0xA7D7),
  (0xA7F5, 1, 1, 0xA7F6), (0xFB05, 1, 1, 0xFB06), (0xFF21, 26, 1, 0xFF41),
  (0x10400, 40, 1, 0x10428), (0x104B0, 36, 1, 0x104D8), (0x10570, 11, 1, 0x10597),
  (0x1057C, 15, 1, 0x105A3), (0x1058C, 7, 1, 0x105B3), (0x10594, 2, 1, 0x105BB),
  (0x10C80, 51, 1, 0x10CC0), (0x10D50, 22, 1, 0x10D70), (0x118A0, 32, 1, 0x118C0),
  (0x16E40, 32, 1, 0x16E60), (0x1E900, 34, 1, 0x1E922)]

/-- The part of a row that lies in a range, as the first and the last of its places. -/
def placesIn (first count step low high : Nat) : Option (Nat × Nat) :=
  let start := if low ≤ first then 0 else (low - first + step - 1) / step
  if high < first then none
  else
    let stop := min (count - 1) ((high - first) / step)
    if start ≤ stop ∧ start < count then some (start, stop) else none

/-- The characters of a row, or those it folds to, at some places. -/
def placed (first step : Nat) (places : Nat × Nat) : List (Nat × Nat) :=
  if step = 1 then [(first + places.1, first + places.2)]
  else (List.range (places.2 - places.1 + 1)).map fun i =>
    (first + (places.1 + i) * step, first + (places.1 + i) * step)

/-- What the rows fold the characters of a range to, and what they fold to its characters. -/
def acrossRange (range : Nat × Nat) : List (Nat × Nat) :=
  rows.flatMap fun (first, count, step, target) =>
    (match placesIn first count step range.1 range.2 with
      | some places => placed target step places
      | none => []) ++
    (match placesIn target count step range.1 range.2 with
      | some places => placed first step places
      | none => [])

end CaseFold

/-- A set with all variants of its characters. What is folded to a character of the set is found in
one step, and what shares its target with one in two. -/
def CharSet.foldCase (s : CharSet) : CharSet :=
  let once := s.union (.ofRanges (s.ranges.toList.flatMap CaseFold.acrossRange))
  once.union (.ofRanges (once.ranges.toList.flatMap CaseFold.acrossRange))

end StepEngine.Text
