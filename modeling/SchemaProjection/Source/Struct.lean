import SchemaProjection.Identifier
import SchemaProjection.Output.Class
import SchemaProjection.Source.TypeText
import SchemaProjection.Text.Quoted

namespace SchemaProjection.Source

/-- Indents by one level all lines but the empty ones. -/
def indented (lines : List String) : List String :=
  lines.map fun line => if line.isEmpty then line else "    " ++ line

def block (head : String) (body : List String) : List String :=
  (head ++ " \x7b") :: indented body ++ ["\x7d"]

/-- A struct field ready to be written: its identifier, the text of its type and the attribute
that ties it to its raw name. -/
structure FieldText where
  ident : String
  type : String
  marking : String

def markingText (f : OutputField) : String :=
  if f.type.nullable then
    "#[serde(rename = " ++ Text.literal f.raw ++
      ", default, skip_serializing_if = \"Option::is_none\")]"
  else "#[serde(rename = " ++ Text.literal f.raw ++ ")]"

def fieldText (sdkCrate : String) (f : OutputField) : Importing FieldText := do
  return { ident := Identifier.ofName f.name, type := ← typeText sdkCrate f.type,
           marking := markingText f }

def FieldText.lines (f : FieldText) : List String :=
  [f.marking, "pub " ++ f.ident ++ ": " ++ f.type ++ ","]

def identifierClash (c : OutputClass) : Option Clash :=
  Clash.find? [] (c.fields.map fun f => (Identifier.ofName f.name, f.raw))

/-- Constructors with more parameters need a lint switched off. -/
def manyArguments : Nat := 7

def constructorLines (className : String) (params : List (String × String)) : List String :=
  ["/// Creates a new `" ++ className ++ "`.", "#[must_use]"] ++
  (if manyArguments < params.length then ["#[allow(clippy::too_many_arguments)]"] else []) ++
  block ("pub fn new(" ++ ", ".intercalate (params.map fun p => p.1 ++ ": " ++ p.2) ++ ") -> Self")
    [if params.isEmpty then "Self \x7b\x7d"
     else "Self \x7b " ++ ", ".intercalate (params.map (·.1)) ++ " \x7d"]

/-- A class that is not comparable has a field of a type without equality. -/
def deriveLine (equality : Equality) (comparable : Bool) : String :=
  match equality, comparable with
  | .structural, true => "#[derive(Debug, Clone, PartialEq, Serialize, Deserialize)]"
  | .structural, false => "#[derive(Debug, Clone, Serialize, Deserialize)]"
  | .marker, _ => "#[derive(Debug, Clone, Default, Serialize, Deserialize)]"

def constantLines (k : OutputConstant) : List String :=
  ["/// Raw name of the `" ++ Text.docText k.value ++ "` attribute.",
   "pub const " ++ k.name ++ ": &'static str = " ++ Text.literal k.value ++ ";",
   ""]

def structLines (c : OutputClass) (fields : List FieldText) (comparable : Bool) : List String :=
  [deriveLine c.equality comparable] ++
  (if fields.isEmpty then ["pub struct " ++ c.name ++ " \x7b\x7d"]
   else block ("pub struct " ++ c.name) (fields.flatMap FieldText.lines)) ++
  [""] ++
  block ("impl " ++ c.name)
    (c.constants.flatMap constantLines ++
      constructorLines c.name (fields.map fun f => (f.ident, f.type))) ++
  [""]

end SchemaProjection.Source
