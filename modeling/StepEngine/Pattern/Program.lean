import StepEngine.Pattern.Bounds
/-!
# Programs that search by trying

* `Instruction` : one instruction; jumps are relative to it;
* `Regex.code` : the code of an expression;
* `Regex.program?` : the program that searches a text for a match of an expression.

A part that need not be tried is one instruction, `run`, which takes the preferred way only. That is
right where nothing after the part can fail, and where all its ways have one length. `hard` says that
something after a part can fail: then the part has to offer its other ways too.
-/

namespace StepEngine

/-- An instruction of a program that searches by trying; distances count instructions. -/
inductive Instruction where
  /-- The preferred way of an expression that holds some groups. -/
  | run (r : Regex) (groups : List Nat)
  /-- On with the first jump, or else with the second. -/
  | fork (first second : Int)
  | jump (distance : Int)
  /-- The place is kept in a slot. -/
  | save (slot : Nat)
  /-- A slot is set to zero. -/
  | clear (slot : Nat)
  /-- Back to the place in a slot. -/
  | restore (slot : Nat)
  /-- One more round of a loop or the way out, by the number of rounds in a slot. -/
  | round (least : Nat) (most : Option Nat) (greedy : Bool) (out : Int) (counter : Nat)
  /-- The same for rounds that may be empty: after an empty one there is neither. -/
  | emptyRound (least : Nat) (greedy : Bool) (out : Int) (counter start : Nat)
  /-- Back by a number of characters. -/
  | back (count : Nat)
  /-- What must not match has matched. -/
  | refuse
  | same (group : Nat)
  | matched (group : Nat)
  /-- From here on up to `commit`, what has been tried is final. -/
  | mark
  | commit
  | searchStart

/-- The code of a part; the state is the number of slots taken. -/
abbrev Build := StateT Nat Option

/-- A slot that is not taken. -/
def Build.slot : Build Nat := do
  let n ← get
  set (n + 1)
  return n

namespace Regex

/-- The code of a part that need not be tried. -/
def runCode (r : Regex) : Build (List Instruction) := do
  guard (r.plain?.isSome || r.isSmall)
  return [.run r r.groups]

/-- The code of parts in a row that need not be tried. -/
def runAllCode : List Regex → Build (List Instruction)
  | [] => return []
  | rs => runCode (.sequence rs)

/-- Parts in a row: how many of the first ones, and how many of the last ones, need not be tried. -/
def easyEnds (awaited : List Nat) (hard : Bool) (rs : List Regex) : Nat × Nat :=
  let isEasy := fun r : Regex => !r.isHard awaited
  let first := (rs.takeWhile fun r => r.isFixed && isEasy r).length
  let last := (rs.drop first).reverse.takeWhile fun r => (r.isFixed || !hard) && isEasy r
  (first, last.length)

def forkCode (greedy : Bool) (later : Int) : Instruction :=
  if greedy then .fork 1 later else .fork later 1

/-- The code of options, each of which but the last one jumps over the others. -/
def eitherCode (codes : List (List Instruction)) : List Instruction :=
  codes.foldr (fun code others =>
    match others with
    | none => some code
    | some others =>
      some (.fork 1 (code.length + 2) :: code ++ .jump (others.length + 1) :: others)) none
  |>.getD []

/-- The code of a loop whose rounds have some code. `mayBeEmpty` says that a round may be empty. -/
def loopCode (least : Nat) (most : Option Nat) (greedy mayBeEmpty : Bool) (code : List Instruction) :
    Build (List Instruction) := do
  let length : Int := code.length
  match least, most, mayBeEmpty with
  | 0, some 1, _ => return forkCode greedy (length + 1) :: code
  | 0, none, false => return forkCode greedy (length + 2) :: code ++ [.jump (-(length + 1))]
  | 1, none, false => return code ++ [if greedy then .fork (-length) 1 else .fork 1 (-length)]
  | _, none, true =>
    let counter ← Build.slot
    let start ← Build.slot
    return .clear counter :: .emptyRound least greedy (length + 2) counter start :: code
      ++ [.jump (-(length + 1))]
  | _, _, _ =>
    let counter ← Build.slot
    return .clear counter :: .round least most greedy (length + 2) counter :: code
      ++ [.jump (-(length + 1))]

/-- The code of a look at what follows or, from `back` characters before, at what comes before. -/
def lookCode (back : Option Nat) (negated : Bool) (code : List Instruction) :
    Build (List Instruction) := do
  let code :=
    match back with
    | some count => .back count :: code
    | none => code
  if negated then return .fork 1 (code.length + 2) :: code ++ [.refuse]
  else
    let slot ← Build.slot
    return .save slot :: code ++ [.restore slot]

mutual

def code (awaited : List Nat) (hard : Bool) (r : Regex) : Build (List Instruction) := do
  if !hard && !r.isHard awaited then runCode r
  else
    match r with
    | empty => return []
    | any _ | literal _ | set _ | assertion _ => runCode r
    | sequence parts =>
      let (first, last) := easyEnds awaited hard parts
      let tried := parts.length - first - last
      let before ← runAllCode (parts.take first)
      let between ← codeAlong awaited first tried parts
      let after ← runAllCode (parts.drop (first + tried))
      return before ++ between ++ after
    | either options => return eitherCode (← codeOfEach awaited hard options)
    | group index inside =>
      return .save (2 * index) :: (← code awaited hard inside) ++ [.save (2 * index + 1)]
    | repeated r least most greedy =>
      let hard := hard || ((least, most) != (0, some 1) && r.isHard awaited)
      loopCode least most greedy (r.least == 0) (← code awaited hard r)
    | look behind negated inside =>
      if behind && !inside.isFixed then
        match inside with
        | either options =>
          let codes ← codeOfLooks awaited negated options
          return if negated then codes.flatten else eitherCode codes
        | _ => failure
      else
        let code ← code awaited false inside
        lookCode (if behind then some inside.least else none) negated code
    | atomic inside => return .mark :: (← code awaited false inside) ++ [.commit]
    | backReference index => return [.same index]
    | hasMatched index => return [.matched index]
    | conditional condition yes no =>
      let condition ← code awaited hard condition
      let yes ← code awaited hard yes
      let no ← code awaited hard no
      return .mark :: .fork 1 (condition.length + yes.length + 3) :: condition ++ .commit :: yes
        ++ .jump (no.length + 1) :: no
    | keepOut => return [.save 0]
    | searchStart => return [.searchStart]

def codeAlong (awaited : List Nat) : (first count : Nat) → List Regex → Build (List Instruction)
  | first + 1, count, _ :: rest => codeAlong awaited first count rest
  | 0, count + 1, r :: rest => return (← code awaited true r) ++ (← codeAlong awaited 0 count rest)
  | _, _, _ => return []

def codeOfEach (awaited : List Nat) (hard : Bool) : List Regex → Build (List (List Instruction))
  | [] => return []
  | r :: rest => return (← code awaited hard r) :: (← codeOfEach awaited hard rest)

def codeOfLooks (awaited : List Nat) (negated : Bool) :
    List Regex → Build (List (List Instruction))
  | [] => return []
  | r :: rest => do
    guard r.isFixed
    let first ← lookCode r.least negated (← code awaited false r)
    return first :: (← codeOfLooks awaited negated rest)

end

/-- The program that searches a text for a match of an expression with `groups` groups, and the number
of its slots. A match may start at each place from the first one on. -/
def program? (r : Regex) (groups : Nat) (awaited : List Nat) : Option (Array Instruction × Nat) := do
  let (code, slots) ← code awaited true r (2 * (groups + 1))
  let program := .fork 3 1 :: .run (.any true) [] :: .jump (-2) :: .save 0 :: code ++ [.save 1]
  some (program.toArray, slots)

end Regex

end StepEngine
