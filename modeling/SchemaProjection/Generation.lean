import SchemaProjection.Assembly
import SchemaProjection.FilePath
import SchemaProjection.Schema.Reading
import SchemaProjection.Schema.Validation
import SchemaProjection.Source.File

namespace SchemaProjection

structure GeneratedFile where
  path : String
  contents : String
  deriving DecidableEq

/-- The file is named for the domain and lies in the directory of the package. -/
def OutputUnit.filePath (u : OutputUnit) : String :=
  FilePath.push (FilePath.ofParts u.package) (u.domain.module ++ ".rs")

def OutputUnit.file (c : Configuration) (u : OutputUnit) :
    Except GenerationError GeneratedFile :=
  (Source.render c u).map (⟨u.filePath, ·⟩)

namespace Schema

def unit? (s : Schema) (c : Configuration) : Domain → Run (Option OutputUnit)
  | .customFields =>
    if s.types.isEmpty then do
      .log (.skipped .customFields)
      return none
    else some <$> s.customFieldsUnit c
  | .variantAttributes =>
    if s.productTypes.isEmpty then do
      .log (.skipped .variantAttributes)
      return none
    else some <$> s.variantAttributesUnit c

/-- All units are assembled before the first is rendered. -/
def generate (s : Schema) (c : Configuration) : Run (List GeneratedFile) := do
  let customFields ← s.unit? c .customFields
  let variantAttributes ← s.unit? c .variantAttributes
  .ofExcept ((customFields.toList ++ variantAttributes.toList).mapM (·.file c))

end Schema

def Snapshot.generate (s : Snapshot) (c : Configuration) : Run (List GeneratedFile) := do
  let schema := Schema.ofSnapshot s
  match schema.validate with
  | .error e => .fail (.schema e)
  | .ok () => schema.generate c

def generateFromJson (text : String) (c : Configuration) : Run (List GeneratedFile) := do
  match Snapshot.parse text with
  | .error e => .fail (.parse e)
  | .ok s => s.generate c

end SchemaProjection
