import SchemaProjection.Configuration.Basic
import SchemaProjection.Toml.Reader

namespace SchemaProjection

namespace Toml

def string? : Toml → Option String
  | .string s => some s
  | _ => none

def bool? : Toml → Option Bool
  | .bool b => some b
  | _ => none

/-- The one key of the table that a date or a time is where a table is expected. -/
def dateTimeKey : String := "$__toml_private_datetime"

/-- A table with values of one kind. One bad value spoils the table. -/
def map? {α : Type} (item? : Toml → Option α) : Toml → Option (KeyMap α)
  | .table es => (es.mapM fun (e : String × Toml) => (item? e.2).map (e.1, ·)).map KeyMap.ofList
  | .dateTime text => (item? (.string text)).map fun v => KeyMap.ofList [(dateTimeKey, v)]
  | _ => none

def orDefault {α : Type} (default : α) (read? : Toml → Option α) : Option Toml → Option α
  | none => some default
  | some v => read? v

def slots? (keys : List String) (es : List (String × Toml)) : Option (List (Option Toml)) :=
  if es.all (keys.contains ·.1) then some (keys.map fun k => es.lookup k) else none

end Toml

open Toml

def Overrides.ofSlots? (className fields required : Option Toml) : Option Overrides := do
  return {
    className := ← orDefault none (·.string?.map some) className
    fields := ← orDefault ∅ (map? string?) fields
    required := ← orDefault ∅ (map? bool?) required }

/-- An array gives the values in the order of the keys. It may be short, and what it has too much is
not looked at. -/
def Overrides.ofToml? : Toml → Option Overrides
  | .table es => do
    match ← slots? ["class_name", "fields", "required"] es with
    | [className, fields, required] => ofSlots? className fields required
    | _ => none
  | .array items => ofSlots? items[0]? items[1]? items[2]?
  | _ => none

def Configuration.ofTable? (es : List (String × Toml)) : Option Configuration := do
  let default : Configuration := {}
  match ← slots? ["package_name", "sdk_crate", "custom_types", "product_types"] es with
  | [packageName, sdkCrate, customTypes, productTypes] =>
    return {
      packageName := ← orDefault default.packageName string? packageName
      sdkCrate := ← orDefault default.sdkCrate string? sdkCrate
      customTypes := ← orDefault ∅ (map? Overrides.ofToml?) customTypes
      productTypes := ← orDefault ∅ (map? Overrides.ofToml?) productTypes }
  | _ => none

def Configuration.ofToml (text : String) : Except GenerationError Configuration :=
  match (Toml.read? text).bind ofTable? with
  | some c => .ok c
  | none => .error .configuration

end SchemaProjection
