/-!
# URI references

* `Uri` : a reference by its five parts; only the path is always there;
* `Uri.render` : its text;
* `Uri.isOpaque` : neither authority nor a slash in front of the path.
-/

namespace StepEngine

/-- The authority of a reference: who is asked, and where. -/
structure Authority where
  userinfo : Option String
  host : String
  port : Option String
  deriving DecidableEq, Inhabited

/-- A URI, or a reference to be resolved against one. -/
structure Uri where
  scheme : Option String
  authority : Option Authority
  path : String
  query : Option String
  fragment : Option String
  deriving DecidableEq, Inhabited

def Authority.render (a : Authority) : String :=
  (a.userinfo.map (· ++ "@")).getD "" ++ a.host ++ (a.port.map (":" ++ ·)).getD ""

namespace Uri

def render (u : Uri) : String :=
  (u.scheme.map (· ++ ":")).getD "" ++ (u.authority.map ("//" ++ ·.render)).getD "" ++ u.path ++
    (u.query.map ("?" ++ ·)).getD "" ++ (u.fragment.map ("#" ++ ·)).getD ""

def withoutFragment (u : Uri) : Uri :=
  { u with fragment := none }

/-- Neither authority nor a slash in front of the path. -/
def isOpaque (u : Uri) : Bool :=
  u.authority.isNone && !u.path.startsWith "/" && u.path != ""

end Uri

end StepEngine
