import SchemaProjection.Error
import SchemaProjection.Text.Parts

namespace SchemaProjection

/-- What replaces the defaults for one entity. `fields` gives output names by raw name; `required`
gives flags by raw name and counts for product types only. -/
structure Overrides where
  className : Option String := none
  fields : KeyMap String := ∅
  required : KeyMap Bool := ∅
  deriving DecidableEq

/-- Overrides are kept by the key or the id of an entity. -/
structure Configuration where
  /-- The package of the generated source, its parts separated by dots or colons. -/
  packageName : String := "generated"
  sdkCrate : String := "commercetools"
  customTypes : KeyMap Overrides := ∅
  productTypes : KeyMap Overrides := ∅
  deriving DecidableEq

inductive Override where
  | customFieldName (typeKey raw name : String)
  | attributeName (productTypeKey raw name : String)
  | attributeRequired (productTypeKey raw : String) (required : Bool)
  | customTypeClass (typeKey className : String)
  | productTypeClass (productTypeKey className : String)
  deriving DecidableEq, Repr

namespace Overrides

def nameField (o : Overrides) (raw name : String) : Overrides :=
  { o with fields := o.fields.insert raw name }

def requireField (o : Overrides) (raw : String) (required : Bool) : Overrides :=
  { o with required := o.required.insert raw required }

def nameClass (o : Overrides) (className : String) : Overrides :=
  { o with className := some className }

end Overrides

namespace Configuration

def changeCustomType (c : Configuration) (key : String) (f : Overrides → Overrides) :
    Configuration :=
  { c with customTypes := c.customTypes.update key {} f }

def changeProductType (c : Configuration) (key : String) (f : Overrides → Overrides) :
    Configuration :=
  { c with productTypes := c.productTypes.update key {} f }

def apply (c : Configuration) : Override → Configuration
  | .customFieldName key raw name => c.changeCustomType key (·.nameField raw name)
  | .attributeName key raw name => c.changeProductType key (·.nameField raw name)
  | .attributeRequired key raw required => c.changeProductType key (·.requireField raw required)
  | .customTypeClass key className => c.changeCustomType key (·.nameClass className)
  | .productTypeClass key className => c.changeProductType key (·.nameClass className)

def applyAll (c : Configuration) (calls : List Override) : Configuration :=
  calls.foldl apply c

def overridesIn (c : Configuration) : Domain → KeyMap Overrides
  | .customFields => c.customTypes
  | .variantAttributes => c.productTypes

/-- The overrides under the entity's key or, if there are none, those under its id. -/
def overridesFor (c : Configuration) (domain : Domain) (entity : Identity) : Option Overrides :=
  ((c.overridesIn domain).get? entity.key).or ((c.overridesIn domain).get? entity.id)

/-- Whether a field is required: by the overrides for product types or else by its own flag. -/
def isRequired (c : Configuration) (entity : Identity) (raw : String) (flag : Bool) : Bool :=
  (((c.overridesFor .variantAttributes entity).bind (·.required.get? raw))).getD flag

def isSeparator (ch : Char) : Bool :=
  ch == '.' || ch == ':'

def packageSegments (c : Configuration) : List String :=
  Text.parts isSeparator c.packageName

end Configuration

end SchemaProjection
