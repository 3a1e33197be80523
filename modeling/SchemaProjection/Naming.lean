import SchemaProjection.Configuration.Basic
import SchemaProjection.Identifier

namespace SchemaProjection

def Domain.defaultClassName (stem : String) : Domain → String
  | .customFields => "Typed" ++ stem ++ "Fields"
  | .variantAttributes => "Typed" ++ stem ++ "VariantAttributes"

def checkName (role : NameRole) (entity : Identity) (name : String) :
    Except GenerationError String :=
  if Identifier.isIdentifier name then .ok name
  else .error (.invalidIdentifier role name entity.key)

/-- The name of a class may be no keyword either, for it is never changed into a raw one. -/
def checkClassName (entity : Identity) (name : String) : Except GenerationError String :=
  if Identifier.isKeyword name then .error (.invalidIdentifier .className name entity.key)
  else checkName .className entity name

namespace Configuration

def className (c : Configuration) (domain : Domain) (entity : Identity) :
    Except GenerationError String :=
  match (c.overridesFor domain entity).bind (·.className) with
  | some name => checkClassName entity name
  | none =>
    let stem := Text.pascalCase entity.seed
    if stem.isEmpty then .error (.invalidIdentifier .className entity.seed entity.key)
    else checkClassName entity (domain.defaultClassName stem)

/-- By default the raw name keeps its case. -/
def fieldName (c : Configuration) (domain : Domain) (entity : Identity) (raw : String) :
    Except GenerationError String :=
  checkName .fieldName entity
    (((c.overridesFor domain entity).bind (·.fields.get? raw)).getD (Identifier.sanitize raw))

def constantName (c : Configuration) (domain : Domain) (entity : Identity) (raw : String) :
    Except GenerationError String := do
  checkName .constantName entity (Text.upperSnakeCase (← c.fieldName domain entity raw))

end Configuration

end SchemaProjection
