import StepEngine.Text.Letter
/-!
# Regular expressions

* `Assertion` : an assertion about a place in a text;
* `Regex` : a regular expression, with groups, look-around and back-references;
* `Regex.least`, `Regex.isFixed` : how many characters a match has at least, and whether always as many;
* `Regex.isHard` : an expression that has to be matched by trying;
* `Regex.plain?` : the characters of an expression that stands for them;
* `Regex.groups` : the groups in an expression.

An expression that is not hard is regular: whether it matches depends only on the text ahead.
-/

namespace StepEngine

inductive Assertion where
  | textStart
  | textEnd
  | lineStart
  | lineEnd
  | wordBoundary
  | noWordBoundary
  | wordStart
  | wordEnd
  deriving DecidableEq

namespace Assertion

def isWordAt (text : Array Char) (place : Nat) : Bool :=
  text[place]?.any Text.isWordChar

def holds (a : Assertion) (text : Array Char) (place : Nat) : Bool :=
  let before := place != 0 && isWordAt text (place - 1)
  let behind := isWordAt text place
  match a with
  | .textStart => place == 0
  | .textEnd => place == text.size
  | .lineStart => place == 0 || text[place - 1]? == some '\n'
  | .lineEnd => place == text.size || text[place]? == some '\n'
  | .wordBoundary => before != behind
  | .noWordBoundary => before == behind
  | .wordStart => !before && behind
  | .wordEnd => before && !behind

def isAboutWords : Assertion → Bool
  | wordBoundary | noWordBoundary | wordStart | wordEnd => true
  | _ => false

end Assertion

inductive Regex where
  | empty
  | any (lineFeed : Bool)
  | literal (c : Char)
  | set (s : Text.CharSet)
  | assertion (a : Assertion)
  | sequence (parts : List Regex)
  | either (options : List Regex)
  /-- A group whose match is remembered. -/
  | group (index : Nat) (inside : Regex)
  /-- From `least` to `most` matches in a row. -/
  | repeated (r : Regex) (least : Nat) (most : Option Nat) (greedy : Bool)
  /-- What follows, or what comes before, matches; or, negated, does not. -/
  | look (behind negated : Bool) (inside : Regex)
  | atomic (inside : Regex)
  | backReference (group : Nat)
  | hasMatched (group : Nat)
  | conditional (condition yes no : Regex)
  | keepOut
  | searchStart
  deriving Inhabited

namespace Regex

mutual

/-- The least number of characters of a match. -/
def least : Regex → Nat
  | any _ | literal _ | set _ => 1
  | sequence parts => leastOfAll parts
  | either options => leastOfEach options
  | group _ inside | atomic inside => inside.least
  | repeated r least _ _ => r.least * least
  | conditional condition yes no => condition.least + min yes.least no.least
  | _ => 0

def leastOfAll : List Regex → Nat
  | [] => 0
  | r :: rest => r.least + leastOfAll rest

def leastOfEach : List Regex → Nat
  | [] => 0
  | [r] => r.least
  | r :: rest => min r.least (leastOfEach rest)

end

mutual

/-- All matches have the same number of characters. -/
def isFixed : Regex → Bool
  | sequence parts => areFixed parts
  | either options => areFixed options && haveLeast (leastOfEach options) options
  | group _ inside | atomic inside => inside.isFixed
  | repeated r least most _ => r.isFixed && most == some least
  | backReference _ => false
  | conditional condition yes no =>
    condition.isFixed && yes.isFixed && no.isFixed && condition.least + yes.least == no.least
  | _ => true

def areFixed : List Regex → Bool
  | [] => true
  | r :: rest => r.isFixed && areFixed rest

def haveLeast (n : Nat) : List Regex → Bool
  | [] => true
  | r :: rest => r.least == n && haveLeast n rest

end

mutual

/-- An expression that has to be matched by trying. `awaited` holds the groups that back-references
name: a match of such a group may have to be taken back. -/
def isHard (awaited : List Nat) : Regex → Bool
  | sequence rs | either rs => areHard awaited rs
  | group index inside => awaited.contains index || inside.isHard awaited
  | repeated r _ _ _ => r.isHard awaited
  | assertion a => a.isAboutWords
  | look _ _ _ | atomic _ | backReference _ | hasMatched _ | conditional _ _ _ | keepOut
  | searchStart => true
  | _ => false

def areHard (awaited : List Nat) : List Regex → Bool
  | [] => false
  | r :: rest => r.isHard awaited || areHard awaited rest

end

mutual

/-- The characters of an expression that are all there is to it. -/
def plain? : Regex → Option (List Char)
  | literal c => some [c]
  | sequence parts => plainAll? parts
  | _ => none

def plainAll? : List Regex → Option (List Char)
  | [] => some []
  | r :: rest => do
    let a ← r.plain?
    let b ← plainAll? rest
    some (a ++ b)

end

mutual

def groups : Regex → List Nat
  | sequence rs | either rs => groupsOfAll rs
  | group index inside => index :: inside.groups
  | repeated r _ _ _ => r.groups
  | look _ _ inside | atomic inside => inside.groups
  | conditional condition yes no => condition.groups ++ yes.groups ++ no.groups
  | _ => []

def groupsOfAll : List Regex → List Nat
  | [] => []
  | r :: rest => r.groups ++ groupsOfAll rest

end

/-- An expression that always can be repeated: neither empty nor about a place. -/
def canRepeat : Regex → Bool
  | empty | assertion _ | look _ _ _ => false
  | _ => true

end Regex

end StepEngine
