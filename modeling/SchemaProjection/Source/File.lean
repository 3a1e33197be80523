import SchemaProjection.Configuration.Basic
import SchemaProjection.Source.CustomFields
import SchemaProjection.Source.VariantAttributes

namespace SchemaProjection.Source

def headerLines (domain : Domain) (package : List String) : List String :=
  ["// Code generated by typedfields. DO NOT EDIT.",
   "// Typed " ++ domain.label ++ " projections for package `" ++ ".".intercalate package ++ "`.",
   "",
   "use serde::\x7bDeserialize, Serialize\x7d;"]

def useLines (imports : Imports) : List String :=
  imports.keys.map fun path => "use " ++ path ++ ";"

def unitLines (sdkCrate : String) (u : OutputUnit) : Except GenerationError (List String) := do
  let body : Importing (List String) ← match u.domain with
    | .customFields => (carrierClasses [] u.classes).map (customFieldsLines sdkCrate)
    | .variantAttributes => (attributesClasses u.classes).map (variantAttributesLines sdkCrate)
  let (lines, imports) := body.run ∅
  return headerLines u.domain u.package ++ useLines imports ++ [""] ++ lines

def ofLines (lines : List String) : String :=
  String.join (lines.map (· ++ "\n"))

def render (c : Configuration) (u : OutputUnit) : Except GenerationError String :=
  (unitLines c.sdkCrate u).map ofLines

end SchemaProjection.Source
