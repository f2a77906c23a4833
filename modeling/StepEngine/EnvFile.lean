import StepEngine.Text.Blank
import StepEngine.Text.Letter
/-!
# Files of environment variables

A file has an entry `KEY=VALUE` on a line, perhaps after `export`. Comments start with `#`. A value
can be quoted, and then go over several lines; `$NAME` in a value stands for a variable.

* `EnvFile.lines` : the lines of a file, a quoted value kept in one piece;
* `EnvFile.parseLine` : the entry of a line, if it has one;
* `EnvFile.entries` : the entries of a file up to the first line that cannot be read;
* `EnvFile.lookup` : a variable from the surroundings, or else the first entry for it.
-/

namespace StepEngine.EnvFile

abbrev Variables := List (String × String)

/-! ## Lines -/

inductive Position where
  | plain
  | afterBlank
  | escape
  | singleQuoted
  | singleQuotedEscape
  | doubleQuoted
  | doubleQuotedEscape
  deriving DecidableEq

def Position.opening (c : Char) : Position :=
  if c = '\\' then .escape
  else if c = '"' then .doubleQuoted
  else if c = '\'' then .singleQuoted
  else .plain

/-- The position after a character; none where a comment starts. -/
def Position.after (p : Position) (c : Char) : Option Position :=
  match p with
  | plain =>
    if Text.isBlank c ∧ c ≠ '\n' ∧ c ≠ '\r' then some afterBlank else some (opening c)
  | afterBlank => if c = '#' then none else some (opening c)
  | escape => some plain
  | singleQuoted =>
    if c = '\\' then some singleQuotedEscape else if c = '\'' then some plain else some singleQuoted
  | singleQuotedEscape => some singleQuoted
  | doubleQuoted =>
    if c = '\\' then some doubleQuotedEscape else if c = '"' then some plain else some doubleQuoted
  | doubleQuotedEscape => some doubleQuoted

/-- The characters of a line before a comment, and the position after them, if there is no
comment. -/
def scan (p : Position) : List Char → List Char × Option Position
  | [] => ([], some p)
  | c :: rest =>
    match p.after c with
    | none => ([], none)
    | some next =>
      let (before, last) := scan next rest
      (c :: before, last)

/-- The lines of a text, each with its line feed. -/
def rawLines : List Char → List (List Char)
  | [] => []
  | c :: rest =>
    if c = '\n' then ['\n'] :: rawLines rest
    else
      match rawLines rest with
      | [] => [[c]]
      | line :: lines => (c :: line) :: lines

def dropLineEnd (line : List Char) : List Char :=
  match line.reverse with
  | '\n' :: '\r' :: rest => rest.reverse
  | '\n' :: rest => rest.reverse
  | _ => line

/-- The lines of a file; `none` stands for a quoted value without an end. Lines are put together as
long as the position after them is not plain. -/
def join (open_ : List Char) (p : Position) : List (List Char) → List (Option (List Char))
  | [] => if p = .plain then [] else [none]
  | line :: rest =>
    let whole := open_ ++ line
    if (whole.dropWhile Text.isBlank).head? = some '#' then some [] :: join [] .plain rest
    else
      match scan p line with
      | (before, none) => some (open_ ++ before) :: join [] .plain rest
      | (_, some .plain) => some (dropLineEnd whole) :: join [] .plain rest
      | (_, some next) => join whole next rest

/-- The lines of a file, without a mark of byte order before them. -/
def lines (text : String) : List (Option (List Char)) :=
  let cs := text.toList
  join [] .plain (rawLines (if cs.head? = some '\uFEFF' then cs.drop 1 else cs))

/-! ## Entries -/

/-- A key: it starts with a letter or a low line, and goes on with digits and points too. -/
def parseKey (cs : List Char) : Option (List Char × List Char) :=
  match cs with
  | [] => none
  | c :: _ =>
    if c.isAlpha ∨ c = '_' then
      let p := fun c : Char => c.isAlphanum || c == '_' || c == '.'
      some (cs.takeWhile p, (cs.dropWhile p).dropWhile Text.isBlank)
    else none

inductive Mode where
  | plain
  | escape (quoted : Bool)
  | singleQuoted
  | doubleQuoted
  /-- The name of a variable, and whether the text around it is quoted. -/
  | name (quoted : Bool) (letters : List Char)
  | bracedName (quoted : Bool) (letters : List Char)
  /-- Only blanks and a comment may follow. -/
  | ending
  deriving DecidableEq

/-- The text outside names. -/
def Mode.text (quoted : Bool) : Mode :=
  if quoted then .doubleQuoted else .plain

def substitute (valueOf : String → Option String) (letters : List Char) : List Char :=
  ((valueOf (String.ofList letters)).getD "").toList

/-- The rest of a value, in a mode. A name ends at the first character that is neither a letter nor
a digit; that character belongs to the value, whatever it is. -/
def readValue (valueOf : String → Option String) : Mode → List Char → Option (List Char)
  | .plain, [] | .ending, [] | .escape false, [] => some []
  | .name false letters, [] => some (substitute valueOf letters)
  | _, [] => none
  | .ending, c :: rest =>
    if c = ' ' ∨ c = '\t' then readValue valueOf .ending rest
    else if c = '#' then some []
    else none
  | .escape quoted, c :: rest =>
    if c ∈ ['\\', '\'', '"', '$', ' '] then
      (readValue valueOf (.text quoted) rest).map (c :: ·)
    else if c = 'n' then (readValue valueOf (.text quoted) rest).map ('\n' :: ·)
    else none
  | .singleQuoted, c :: rest =>
    if c = '\'' then readValue valueOf .plain rest
    else (readValue valueOf .singleQuoted rest).map (c :: ·)
  | .name quoted letters, c :: rest =>
    if Text.isAlphanumeric c then readValue valueOf (.name quoted (letters ++ [c])) rest
    else if c = '\x7b' ∧ letters = [] then readValue valueOf (.bracedName quoted []) rest
    else
      let value := substitute valueOf letters
      if c = '$' then (readValue valueOf (.name quoted []) rest).map (value ++ ·)
      else (readValue valueOf (.text quoted) rest).map fun more => value ++ c :: more
  | .bracedName quoted letters, c :: rest =>
    if c = '\x7d' then
      (readValue valueOf (.text quoted) rest).map (substitute valueOf letters ++ ·)
    else readValue valueOf (.bracedName quoted (letters ++ [c])) rest
  | .doubleQuoted, c :: rest =>
    if c = '$' then readValue valueOf (.name true []) rest
    else if c = '"' then readValue valueOf .plain rest
    else if c = '\\' then readValue valueOf (.escape true) rest
    else (readValue valueOf .doubleQuoted rest).map (c :: ·)
  | .plain, c :: rest =>
    if c = '$' then readValue valueOf (.name false []) rest
    else if c = '\'' then readValue valueOf .singleQuoted rest
    else if c = '"' then readValue valueOf .doubleQuoted rest
    else if c = '\\' then readValue valueOf (.escape false) rest
    else if c = ' ' ∨ c = '\t' then readValue valueOf .ending rest
    else (readValue valueOf .plain rest).map (c :: ·)

def afterEquals : List Char → Option (List Char)
  | '=' :: rest => some (rest.dropWhile Text.isBlank)
  | _ => none

/-- A key and what follows its equals sign; `export` before a key is passed over. -/
def parseAssignment (line : List Char) : Option (List Char × List Char) := do
  let (key, rest) ← parseKey line
  match afterEquals rest with
  | some value => some (key, value)
  | none =>
    if key = "export".toList then do
      let (key, rest) ← parseKey rest
      let value ← afterEquals rest
      some (key, value)
    else none

inductive Line where
  | empty
  | entry (key value : String)
  | unreadable

/-- The entry of a line, given the variables known so far. Blanks around the line do not count, not
even an escaped one at its end. -/
def parseLine (valueOf : String → Option String) (line : List Char) : Line :=
  let line := Text.trimBlanks line
  if line = [] ∨ line.head? = some '#' then .empty
  else
    match parseAssignment line with
    | none => .unreadable
    | some (key, value) =>
      if value = [] ∨ value.head? = some '#' then .entry (String.ofList key) ""
      else
        match readValue valueOf .plain value with
        | some value => .entry (String.ofList key) (String.ofList value)
        | none => .unreadable

/-- The entries of lines, after the entries `known`; a variable stands for its value in the
surroundings, or else for that of the first entry for it, which is set as soon as it is read. -/
def readEntries (surroundings : String → Option String) (known : Variables) :
    List (Option (List Char)) → Variables
  | [] => known
  | none :: _ => known
  | some line :: rest =>
    match parseLine (fun name => surroundings name <|> known.lookup name) line with
    | .empty => readEntries surroundings known rest
    | .entry key value => readEntries surroundings (known ++ [(key, value)]) rest
    | .unreadable => known

/-- The entries of a file up to the first line that cannot be read. -/
def entries (surroundings : String → Option String) (text : String) : Variables :=
  readEntries surroundings [] (lines text)

def lookup (surroundings : String → Option String) (text name : String) : Option String :=
  surroundings name <|> (entries surroundings text).lookup name

end StepEngine.EnvFile
