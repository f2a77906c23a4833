import StepEngine.Pattern.Regex
import StepEngine.Pattern.Utf8
/-!
# Bounds of regular expressions

* `Regex.isSound` : the counts of an expression make sense;
* `Regex.size`, `sizeLimit` : how much room its compiled form takes, and how much there is;
* `Regex.isSmall` : an expression within these bounds.

An expression is compiled twice, to an automaton over bytes that reads a text from its start and to one
that reads it from its end. Each of them has to find room.
-/

namespace StepEngine

namespace Regex

open Text (CharSet)

mutual

/-- No count is above the one after it or beyond 32 bits. -/
def isSound : Regex → Bool
  | sequence rs | either rs => areSound rs
  | group _ inside => inside.isSound
  | repeated r least most _ =>
    r.isSound && least < Nat.pow 2 32 && most.all fun most => least ≤ most && most < Nat.pow 2 32
  | _ => true

def areSound : List Regex → Bool
  | [] => true
  | r :: rest => r.isSound && areSound rest

end

/-! ## Simpler forms -/

mutual

/-- The set of an expression that stands for one character. -/
def oneChar? : Regex → Option CharSet
  | any true => some .all
  | any false => some (CharSet.single '\n').complement
  | literal c => some (.single c)
  | set s => some s
  | either options => oneOf? options
  | _ => none

/-- The set of several expressions that each stand for one character. -/
def oneOf? : List Regex → Option CharSet
  | [] => some .none
  | r :: rest => do
    let a ← r.oneChar?
    let b ← oneOf? rest
    some (a.union b)

end

mutual

/-- All matches are empty. -/
def isWidthless : Regex → Bool
  | empty | assertion _ => true
  | sequence parts | either parts => areWidthless parts
  | group _ inside => inside.isWidthless
  | repeated r _ most _ => most == some 0 || r.isWidthless
  | _ => false

def areWidthless : List Regex → Bool
  | [] => true
  | r :: rest => r.isWidthless && areWidthless rest

end

mutual

/-- The options of an expression: those of an option are options too. -/
def options : Regex → List Regex
  | either options => optionsOfEach options
  | r => [r]

def optionsOfEach : List Regex → List Regex
  | [] => []
  | r :: rest => r.options ++ optionsOfEach rest

end

/-- The bytes of an expression that stands for a text that is not empty. -/
def word? (r : Regex) : Option (List UInt8) :=
  match r, r.plain? with
  | _, some (c :: cs) => some (String.ofList (c :: cs)).toUTF8.toList
  | .set s, _ =>
    match s.ranges.toList with
    | [(a, b)] => if a = b then some (Char.ofNat a).toString.toUTF8.toList else none
    | _ => none
  | _, _ => none

/-! ## Room -/

/-- The room of a state, in bytes. -/
def stateSize : Nat := 32

/-- The room of a state with ways on to other states. -/
def forkSize (ways : Nat) : Nat := stateSize + 4 * ways

/-- The room of a state with ways on by ranges of bytes. -/
def branchSize (ways : Nat) : Nat := stateSize + 8 * ways

/-- The room of a set, and of the state after it. -/
def setSize (backward : Bool) (s : CharSet) : Nat :=
  match s.ranges.toList with
  | [(a, b)] => if a = b then (Char.ofNat a).utf8Size * stateSize else sizeOf s
  | _ => sizeOf s
where
  sizeOf (s : CharSet) : Nat :=
    if s.ranges.all fun r => r.2 < 128 then branchSize s.ranges.size + stateSize
    else if backward then
      let extent := Utf8.backward s
      forkSize extent.ways + stateSize * extent.states + stateSize
    else
      let extent := Utf8.forward s
      stateSize * extent.states + 8 * extent.ways + stateSize

/-- Words by their first bytes, in the order in which these first come. -/
def byFirstByte (words : List (List UInt8)) : List (UInt8 × List (List UInt8)) :=
  (words.filterMap List.head?).eraseDups.map fun first =>
    (first, words.filterMap fun word =>
      match word with
      | b :: rest => if b = first then some rest else none
      | [] => none)

/-- The words between those that are empty. -/
def chunks (words : List (List UInt8)) : List (List (List UInt8)) :=
  words.foldr (fun word chunks =>
    match word, chunks with
    | [], _ => [] :: chunks
    | _, chunk :: others => (word :: chunk) :: others
    | _, [] => [[word]]) [[]]

/-- The room of a tree of words, from one of its states on: for each chunk of words a state that
branches by the first bytes, and a fork between the chunks. A state where words only end takes none. -/
def treeSize : (fuel : Nat) → List (List UInt8) → Nat
  | 0, _ => 0
  | fuel + 1, words =>
    if words.all List.isEmpty then 0
    else
      let chunks := (chunks words).map byFirstByte
      let branches := (chunks.filter fun c => !c.isEmpty).map fun c =>
        (if c.length = 1 then stateSize else branchSize c.length) +
          (c.map fun ways => treeSize fuel ways.2).sum
      branches.sum + forkSize (branches.length + chunks.length - 1)

/-- The room of words as options. -/
def wordsSize (backward : Bool) (words : List (List UInt8)) : Nat :=
  let words := if backward then words.map List.reverse else words
  treeSize (words.foldl (fun sum word => sum + word.length) 1) words + stateSize

/-- The room of a repetition of what takes `size`; `mayBeEmpty` says that it has an empty match. -/
def loopSize (size : Nat) (mayBeEmpty : Bool) (least : Nat) (most : Option Nat) : Nat :=
  match least, most with
  | 0, some 0 => stateSize
  | 1, some 1 => size
  | 0, some 1 => size + forkSize 2 + stateSize
  | 0, none => if mayBeEmpty then size + 2 * forkSize 2 + stateSize else size + forkSize 2
  | n, none => n * size + forkSize 2
  | n, some m =>
    let first := if n = 0 then stateSize else n * size
    if m ≤ n then first else first + (m - n) * (size + forkSize 2) + stateSize

mutual

/-- The room of an expression in an automaton that reads a text from its start or, `backward`, from its
end. -/
def size (backward : Bool) : Regex → Nat
  | any lineFeed =>
    setSize backward (if lineFeed then .all else (CharSet.single '\n').complement)
  | literal c => c.utf8Size * stateSize
  | set s => setSize backward s
  | sequence [] => stateSize
  | sequence (r :: rest) => r.size backward + sizeOfRow backward rest
  | either opts =>
    match oneOf? opts, (optionsOfEach opts).mapM word? with
    | some s, _ => setSize backward s
    | none, some words => wordsSize backward words
    | none, none =>
      sizeOfOptions backward opts + forkSize (optionsOfEach opts).length + stateSize
  | group _ inside => inside.size backward + if backward then 0 else 2 * stateSize
  | repeated r least most _ =>
    let size := r.size backward
    if r.isWidthless then loopSize size true (min least 1) (some (min (most.getD 1) 1))
    else loopSize size (r.least == 0) least most
  | _ => stateSize

def sizeOfRow (backward : Bool) : List Regex → Nat
  | [] => 0
  | r :: rest => r.size backward + sizeOfRow backward rest

def sizeOfOptions (backward : Bool) : List Regex → Nat
  | [] => 0
  | .either opts :: rest => sizeOfOptions backward opts + sizeOfOptions backward rest
  | r :: rest => r.size backward + sizeOfOptions backward rest

end

/-- The room of the search for the start of a match and of its end. -/
def searchSize (backward : Bool) : Nat :=
  branchSize 1 + stateSize + forkSize 2 + (if backward then 0 else 2 * stateSize) + stateSize

def sizeLimit : Nat := 10 * Nat.pow 2 20

/-- An expression whose counts make sense and whose compiled forms have room. -/
def isSmall (r : Regex) : Bool :=
  r.isSound && [false, true].all fun backward => r.size backward + searchSize backward ≤ sizeLimit

end Regex

end StepEngine
