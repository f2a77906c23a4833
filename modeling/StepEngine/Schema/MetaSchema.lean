import StepEngine.Schema.MetaSchema.Former
import StepEngine.Schema.MetaSchema.Later
import StepEngine.Schema.Compiler
/-!
# The schemas of schemas

* `MetaSchema.contents` : for each draft, the schema of its schemas;
* `MetaSchema.standard` : the registry of these and of their parts, under their names;
* `MetaSchema.validator` : for each draft, what its schema of schemas says.
-/

namespace StepEngine.MetaSchema

def contents : Draft → Json
  | .draft4 => Former.draft4
  | .draft6 => Former.draft6
  | .draft7 => Former.draft7
  | d => Later.whole d

/-- The identity of a standard schema: the scheme, and the path to it. -/
def identity (scheme path : String) : Uri :=
  ⟨some scheme, some ⟨none, "json-schema.org", none⟩, path, none, none⟩

def identityOf : Draft → Uri
  | .draft4 => identity "http" "/draft-04/schema"
  | .draft6 => identity "http" "/draft-06/schema"
  | .draft7 => identity "http" "/draft-07/schema"
  | .draft2019 => identity "https" "/draft/2019-09/schema"
  | .draft2020 => identity "https" "/draft/2020-12/schema"

def parts (d : Draft) (folder : String) : List (Uri × Resource) :=
  (Later.parts d).map fun p => (identity "https" (folder ++ p.name), ⟨d, Later.part d p⟩)

def resources : List (Uri × Resource) :=
  Draft.all.map (fun d => (identityOf d, ⟨d, contents d⟩)) ++
    parts .draft2019 "/draft/2019-09/meta/" ++ parts .draft2020 "/draft/2020-12/meta/"

/-- The standard schemas under their names. -/
def standard : Registry :=
  ⟨resources, resources.flatMap fun (uri, resource) =>
    (resource.draft.anchorsOf resource.contents).map fun name => ⟨uri, name, resource⟩⟩

/-- Rounds enough for schemas that are nested less deep. -/
def rounds : Nat := Nat.pow 2 20

def validators : List (Draft × Validator) :=
  Draft.all.map fun d =>
    let locus : Locus := ⟨standard, d, d.vocabularies, identityOf d, []⟩
    (d, locus.validator locus.steps rounds (contents d))

def validator (d : Draft) : Validator :=
  (validators.lookup d).getD .anything

end StepEngine.MetaSchema
