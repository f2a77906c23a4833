import StepEngine.Text.Hex
import StepEngine.Text.Blank
/-!
# Addresses of eight groups

* `Uri.groupsOf` : the groups that the text of an address stands for;
* `Uri.shownGroups` : the shortest text of eight groups;
* `Uri.normalizeAddress` : the text of an address in its normal form.

In a text two colons in a row stand for as many zeros as there are groups missing, and four numbers
with points between them for the last two groups.
-/

namespace StepEngine.Uri

def decimal (cs : List Char) : Nat :=
  cs.foldl (fun n c => 10 * n + (c.toNat - 48)) 0

def groupsOfPart (part : List Char) : List Nat :=
  match (Text.split (· == '.') part).map decimal with
  | [a, b, c, d] => [256 * a + b, 256 * c + d]
  | _ => [Hex.number part]

def groupsBetween (cs : List Char) : List Nat :=
  if cs.isEmpty then [] else (Text.split (· == ':') cs).flatMap groupsOfPart

/-- The texts before and after the gap, if there is one. -/
def aroundGap? : (before : List Char) → List Char → Option (List Char × List Char)
  | before, ':' :: ':' :: rest => some (before.reverse, rest)
  | before, c :: rest => aroundGap? (c :: before) rest
  | _, [] => none

def groupsOf (cs : List Char) : List Nat :=
  match aroundGap? [] cs with
  | none => groupsBetween cs
  | some (before, after) =>
    let first := groupsBetween before
    let last := groupsBetween after
    first ++ List.replicate (8 - first.length - last.length) 0 ++ last

/-- Where the longest run of zeros starts, the first of several, and how long it is. -/
def longestZeros (groups : List Nat) : Nat × Nat :=
  (List.range groups.length).foldl (fun best i =>
    let length := ((groups.drop i).takeWhile (· == 0)).length
    if best.2 < length then (i, length) else best) (0, 0)

def joinedGroups (groups : List Nat) : String :=
  ":".intercalate (groups.map fun g => String.ofList (Nat.toDigits 16 g))

/-- The shortest text of eight groups: the first of the longest runs of zeros is left out. The last
two groups behind a mark for it are written as four numbers. -/
def shownGroups (groups : List Nat) : String :=
  match groups with
  | [0, 0, 0, 0, 0, 0xFFFF, a, b] =>
    "::ffff:" ++ ".".intercalate ([a / 256, a % 256, b / 256, b % 256].map toString)
  | _ =>
    let (start, length) := longestZeros groups
    if length ≤ 1 then joinedGroups groups
    else joinedGroups (groups.take start) ++ "::" ++ joinedGroups (groups.drop (start + length))

def normalizeAddress (cs : List Char) : List Char :=
  (shownGroups (groupsOf cs)).toList

end StepEngine.Uri
