import StepEngine.Pattern.Token
/-!
# The grammar of patterns

* `Read.quantified` : an expression with the quantifier that follows it;
* `Read.mode` : the flags after an opening parenthesis and a question mark;
* `Read.regex` : the expression at a place, with `piece`, `atom` and `group` for its parts;
* `readRegex?` : the expression of a whole text, with what back-references in it name.

A quantifier follows an expression once: after a possessive sign or another quantifier the next sign has
nothing to repeat. Flags set in a group without a colon stay in force after it.
-/

namespace StepEngine.Pattern

/-- How deep groups may be nested. -/
def groupDepth : Nat := 64

namespace Read

/-! ## Quantifiers -/

/-- The counts of the quantifier at the place at hand, if there is one, and what follows it. -/
def quantifier? : Read (Option (Nat × Option Nat × List Char)) := do
  match ← rest with
  | '?' :: after => return some (0, some 1, after)
  | '*' :: after => return some (0, none, after)
  | '+' :: after => return some (1, none, after)
  | '\x7b' :: after => return counts? (← flags).spaced after
  | _ => return none

/-- An expression with the quantifier that follows it, if there is one. A question mark after it
changes which matches are preferred, a plus sign makes the match final. -/
def quantified (r : Regex) : Read Regex := do
  gap
  match ← quantifier? with
  | none => return r
  | some (least, most, after) =>
    guard r.canRepeat
    moveTo after
    gap
    let lazily := (← rest).head? == some '?'
    if lazily then moveTo ((← rest).drop 1)
    let r := .repeated r least most (lazily == (← flags).swapGreed)
    match ← rest with
    | '+' :: after => do
      moveTo after
      return .atomic r
    | _ => return r

/-! ## Flags -/

def setFlag (letter : Char) (on : Bool) : Read Unit := do
  let f ← flags
  let f ←
    match letter with
    | 'i' => pure { f with anyCase := on }
    | 'm' => pure { f with multiLine := on }
    | 's' => pure { f with dotAll := on }
    | 'U' => pure { f with swapGreed := on }
    | 'x' => pure { f with spaced := on }
    | 'u' => if on then pure f else failure
    | _ => failure
  modify ({ · with flags := f })

/-- Flags, after an opening parenthesis and a question mark. The result is whether they end with a colon.
`start` is how much of the pattern was left before them. -/
def mode (start : Nat) : (fuel : Nat) → (on : Bool) → Read Bool
  | 0, _ => failure
  | fuel + 1, on => do
    gap
    match ← rest with
    | [] => failure
    | c :: after =>
      let read := start - (after.length + 1)
      if c = ':' then
        guard (on || read != 1)
        moveTo after
        return true
      else if c = ')' then
        guard (read != 0 && (on || read != 1))
        moveTo after
        return false
      else if c = '-' then
        guard on
        moveTo after
        mode start fuel false
      else
        setFlag c on
        moveTo after
        mode start fuel on

/-! ## Groups -/

inductive Opening where
  | capture (index : Nat)
  | look (behind negated : Bool)
  | atomic
  | condition
  /-- An expression that is there is all there is to the group. -/
  | done (r : Regex)
  /-- Flags for the inside of the group; the ones before it. -/
  | flagged (before : Flags)

def openCapture : Read Opening := do
  modify fun s => { s with opened := s.opened + 1 }
  return .capture (← get).opened

/-- A group with a name between marks has been opened. -/
def openNamed (first last : List Char) (after : List Char) : Read Opening := do
  let (name, after) ← liftM (marked? first last false after)
  moveTo after
  let opening ← openCapture
  modify fun s => { s with names := (name, s.opened) :: s.names }
  return opening

/-- The signs after an opening parenthesis that say what it opens. -/
def opening : Read Opening := do
  gap
  match ← rest with
  | '?' :: after =>
    match after with
    | '=' :: after => moveTo after; return .look false false
    | '!' :: after => moveTo after; return .look false true
    | '<' :: '=' :: after => moveTo after; return .look true false
    | '<' :: '!' :: after => moveTo after; return .look true true
    | '<' :: _ => openNamed ['<'] ['>'] after
    | '\'' :: _ => openNamed ['\''] ['\''] after
    | 'P' :: '<' :: _ => openNamed ['<'] ['>'] (after.drop 1)
    | 'P' :: '=' :: after =>
      moveTo after
      return .done (.backReference (← reference [] [')'] false))
    | '>' :: after => moveTo after; return .atomic
    | '(' :: after => moveTo after; return .condition
    | _ => do
      let before ← flags
      moveTo after
      if ← mode after.length (after.length + 1) true then return .flagged before
      else return .done .empty
  | _ => openCapture

/-- The group that a condition between parentheses names, if it is no expression. -/
def namedCondition? : Read (Option Nat) := do
  match ← rest with
  | '\'' :: _ => return some (← reference ['\''] ['\'', ')'] true)
  | '<' :: _ => return some (← reference ['<'] ['>', ')'] true)
  | c :: _ =>
    if c.isDigit || c = '+' || c = '-' then return some (← reference [] [')'] true)
    else return none
  | [] => failure

/-- The condition that an expression stands for: a back-reference asks whether its group has matched. -/
def asCondition : Regex → Regex
  | .backReference group => .hasMatched group
  | r => r

/-- A condition with the expression after it, whose first option is for when the condition holds. -/
def conditional (condition after : Regex) : Regex :=
  let (yes, no) :=
    match after with
    | .either (yes :: [no]) => (yes, no)
    | .either (yes :: others) => (yes, .either others)
    | yes => (yes, .empty)
  match yes, no with
  | .empty, .empty => asCondition condition
  | _, _ => .conditional (asCondition condition) yes no

def inRow : List Regex → Regex
  | [] => .empty
  | [r] => r
  | rs => .sequence rs

/-! ## Expressions -/

mutual

/-- The expression at the place at hand, in a pattern of `size` bytes, in `depth` groups. Groups that
have names are not named by number. -/
def regex (size : Nat) : (fuel depth : Nat) → Read Regex
  | 0, _ => failure
  | fuel + 1, depth => do
    let first ← branch size fuel depth
    gap
    match ← options size fuel depth with
    | [] =>
      let s ← get
      guard (!s.byNumber || s.names.isEmpty)
      return inRow first
    | others => return .either (inRow first :: others)
termination_by structural fuel => fuel

/-- The further options of an expression. -/
def options (size : Nat) : (fuel depth : Nat) → Read (List Regex)
  | 0, _ => failure
  | fuel + 1, depth => do
    match ← rest with
    | '|' :: after =>
      moveTo after
      let next ← branch size fuel depth
      gap
      return inRow next :: (← options size fuel depth)
    | _ => return []
termination_by structural fuel => fuel

/-- The expressions in a row at the place at hand, without empty ones. -/
def branch (size : Nat) : (fuel depth : Nat) → Read (List Regex)
  | 0, _ => failure
  | fuel + 1, depth => do
    let left := (← rest).length
    if left = 0 then return []
    else
      let r ← quantified (← atom size fuel depth)
      if (← rest).length = left then return []
      else
        let others ← branch size fuel depth
        match r with
        | .empty => return others
        | _ => return r :: others
termination_by structural fuel => fuel

/-- The expression at the place at hand that a quantifier may follow. -/
def atom (size : Nat) : (fuel depth : Nat) → Read Regex
  | 0, _ => failure
  | fuel + 1, depth => do
    gap
    let f ← flags
    match ← rest with
    | [] => return .empty
    | c :: after =>
      if c = '|' || c = ')' then return .empty
      moveTo after
      match c with
      | '.' => return .any f.dotAll
      | '^' => return .assertion (if f.multiLine then .lineStart else .textStart)
      | '$' => return .assertion (if f.multiLine then .lineEnd else .textEnd)
      | '(' => group size fuel (depth + 1)
      | '\\' => escaped size
      | '[' => bracketed size
      | '*' | '+' | '?' => failure
      | _ => literal c
termination_by structural fuel => fuel

def group (size : Nat) : (fuel depth : Nat) → Read Regex
  | 0, _ => failure
  | fuel + 1, depth => do
    guard (depth < groupDepth)
    match ← opening with
    | .done r => return r
    | .capture index => return .group index (← inside size fuel depth)
    | .look behind negated => return .look behind negated (← inside size fuel depth)
    | .atomic => return .atomic (← inside size fuel depth)
    | .flagged before =>
      let r ← inside size fuel depth
      modify ({ · with flags := before })
      return r
    | .condition =>
      let condition ←
        match ← namedCondition? with
        | some group => pure (.backReference group)
        | none => inside size fuel depth
      let left := (← rest).length
      let r ← regex size fuel depth
      if (← rest).length = left then
        match condition with
        | .backReference group => expect ')'; return .hasMatched group
        | _ => failure
      else
        expect ')'
        return conditional condition r
termination_by structural fuel => fuel

/-- The inside of a group and its closing parenthesis. -/
def inside (size : Nat) : (fuel depth : Nat) → Read Regex
  | 0, _ => failure
  | fuel + 1, depth => do
    let r ← regex size fuel depth
    expect ')'
    return r
termination_by structural fuel => fuel

end

end Read

/-- The expression of a text, the number of its groups, and those that back-references name. -/
structure Spelled where
  regex : Regex
  groups : Nat
  awaited : List Nat

def readRegex? (text : String) : Option Spelled := do
  let start : Reading := ⟨text.toList, .none, 0, [], false, []⟩
  let (r, s) ← Read.regex text.utf8ByteSize (8 * (text.length + 2)) 0 start
  guard s.rest.isEmpty
  some ⟨r, s.opened, s.awaited⟩

end StepEngine.Pattern
