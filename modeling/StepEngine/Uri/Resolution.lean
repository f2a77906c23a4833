import StepEngine.Uri.Reader
import StepEngine.Uri.Address
/-!
# Resolving URI references

* `Uri.removeDots` : a path without the segments `.` and `..`;
* `Uri.normalize` : the form in which equal references have equal texts;
* `Uri.resolve` : what a reference means against a base, or why it means nothing.
-/

namespace StepEngine

namespace Uri

/-- The segments of a path after its first slash, without `.` and `..`. Those two at the end leave
an empty segment. -/
def dotless (done : List String) : List String → List String
  | [] => done.reverse
  | "." :: rest => if rest.isEmpty then dotless ("" :: done) rest else dotless done rest
  | ".." :: rest =>
    if rest.isEmpty then dotless ("" :: done.drop 1) rest else dotless (done.drop 1) rest
  | segment :: rest => dotless (segment :: done) rest

/-- An absolute path without the segments `.` and `..`. -/
def removeDots (path : String) : String :=
  let segments := (Text.split (· == '/') path.toList).map String.ofList
  "/" ++ "/".intercalate (dotless [] (segments.drop 1))

/-- A text whose escapes are in capitals, and decoded where they stand for a character that needs
none. -/
def normalizeEscapes : List Char → List Char
  | '%' :: a :: b :: rest =>
    let c := Char.ofNat (Hex.number [a, b])
    if c.toNat < 128 && isUnreserved c then c :: normalizeEscapes rest
    else '%' :: a.toUpper :: b.toUpper :: normalizeEscapes rest
  | c :: rest => c :: normalizeEscapes rest
  | [] => []

def normalizePart (s : String) : String :=
  String.ofList (normalizeEscapes s.toList)

/-- The letters of a host in lower case; escapes stay in capitals. -/
def lowerHost : List Char → List Char
  | '%' :: a :: b :: rest => '%' :: a :: b :: lowerHost rest
  | c :: rest => c.toLower :: lowerHost rest
  | [] => []

/-- A host in its normal form. Between brackets it is an address, of a later version if it starts with
a letter `v`. -/
def normalizeHost (host : List Char) : List Char :=
  match host with
  | '[' :: 'v' :: _ | '[' :: 'V' :: _ => host.map Char.toLower
  | '[' :: inside => '[' :: normalizeAddress inside.dropLast ++ [']']
  | _ => lowerHost (normalizeEscapes host)

def normalizeAuthority (a : Authority) : Authority where
  userinfo := a.userinfo.map normalizePart
  host := String.ofList (normalizeHost a.host.toList)
  port := a.port.filter (· != "")

/-- The form in which equal references have equal texts. -/
def normalize (u : Uri) : Uri :=
  let scheme := u.scheme.map String.toLower
  let path := normalizePart u.path
  let path := if scheme.isSome && path.startsWith "/" then removeDots path else path
  let path := if scheme.isSome && u.authority.isNone && path.startsWith "//" then "/." ++ path else path
  ⟨scheme, u.authority.map normalizeAuthority, path, u.query.map normalizePart,
    u.fragment.map normalizePart⟩

/-- Why a reference means nothing against a base. -/
inductive ResolutionFault where
  | baseWithFragment
  | opaqueBase
  deriving DecidableEq

def ResolutionFault.message : ResolutionFault → String
  | baseWithFragment => "base URI/IRI with fragment"
  | opaqueBase =>
    "relative reference must be empty or start with '#' when resolved against " ++
      "authority-less base with rootless path"

/-- The part of a base's path up to its last slash, with a relative path behind it. A segment `..`
at the end of the base counts as a folder. -/
def mergePaths (base path : String) : String :=
  if base = "" then "/" ++ path
  else
    let segments := (Text.split (· == '/') base.toList).map String.ofList
    if segments.getLast? = some ".." then base ++ "/" ++ path
    else "/".intercalate (segments.dropLast ++ [path])

/-- What a reference means against a base, in normal form. -/
def resolve (base reference : Uri) : Except ResolutionFault Uri :=
  if base.fragment.isSome then .error .baseWithFragment
  else if reference.scheme.isSome then .ok reference.normalize
  else if base.isOpaque &&
      (reference.authority.isSome || reference.path != "" || reference.query.isSome) then
    .error .opaqueBase
  else if reference.authority.isSome then .ok { reference with scheme := base.scheme }.normalize
  else if reference.path = "" then
    .ok { base with query := reference.query <|> base.query, fragment := reference.fragment }.normalize
  else
    let path := normalizePart reference.path
    let path := if path.startsWith "/" then path else mergePaths base.path path
    .ok { base with path := removeDots path, query := reference.query, fragment := reference.fragment }.normalize

end Uri

inductive UriProblem where
  | unreadable (text : String) (fault : UriFault)
  | unresolved (text base : String) (fault : Uri.ResolutionFault)
  deriving DecidableEq

def UriProblem.message : UriProblem → String
  | unreadable text fault => "Invalid URI reference '" ++ text ++ "': " ++ fault.message
  | unresolved text base fault =>
    "Failed to resolve '" ++ text ++ "' against '" ++ base ++ "': " ++ fault.message

/-- What a text means against a base. -/
def Uri.join (base : Uri) (text : String) : Except UriProblem Uri :=
  match Uri.read .ascii text with
  | .error fault => .error (.unreadable text fault)
  | .ok reference =>
    match Uri.resolve base reference with
    | .error fault => .error (.unresolved text base.render fault)
    | .ok uri => .ok uri

end StepEngine
