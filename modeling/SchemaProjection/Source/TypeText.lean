import SchemaProjection.KeyMap
import SchemaProjection.Output.Type

namespace SchemaProjection.Source

abbrev Imports := KeyMap Unit

abbrev Importing := StateM Imports

def useImport (path : String) : Importing Unit :=
  modify (·.insert path ())

def sdkText (sdkCrate : String) (t : SdkType) : Importing String := do
  useImport (sdkCrate ++ "::" ++ t.path)
  return t.name

def primitiveText : Primitive → Importing String
  | .boolean => return "bool"
  | .string => return "String"
  | .int => return "i32"
  | .double => return "f64"
  | .date => do
    useImport "chrono::NaiveDate"
    return "NaiveDate"
  | .time => do
    useImport "chrono::NaiveTime"
    return "NaiveTime"
  | .dateTime => do
    useImport "chrono::DateTime"
    useImport "chrono::Utc"
    return "DateTime<Utc>"

/-- A class that is not inside a set is boxed, so that every struct has a finite size. Elements of
a set are never absent, so it is not shown whether they may be. -/
def shapeText (sdkCrate : String) (inSet : Bool) : Shape → Importing String
  | .primitive p => primitiveText p
  | .sdk t => sdkText sdkCrate t
  | .set _ element => do return "Vec<" ++ (← shapeText sdkCrate true element) ++ ">"
  | .generated className => return if inSet then className else "Box<" ++ className ++ ">"
  | .attributeList => do return "Vec<" ++ (← sdkText sdkCrate .rawAttribute) ++ ">"
  | .any => do
    useImport "serde_json::Value"
    return "Value"

def typeText (sdkCrate : String) (t : OutputType) : Importing String := do
  let text ← shapeText sdkCrate false t.shape
  return if t.nullable then "Option<" ++ text ++ ">" else text

end SchemaProjection.Source
