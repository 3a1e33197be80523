import SchemaProjection.Proofs.Generation

namespace SchemaProjection.Stages

variable {s : Schema} {c : Configuration} {d : Domain} {files : List GeneratedFile}
  {e : GenerationError}

def assembly (s : Schema) (c : Configuration) : Domain → Except GenerationError OutputUnit
  | .customFields => (s.customFieldsUnit c).outcome
  | .variantAttributes => (s.variantAttributesUnit c).outcome

inductive Stage where
  | assembly (d : Domain)
  | rendering (d : Domain)

/-- Whether the stage ends well. A domain without a unit cannot be rendered either. -/
def Stage.outcome (s : Schema) (c : Configuration) : Stage → Except GenerationError Unit
  | .assembly d => (Stages.assembly s c d).map fun _ => ()
  | .rendering d => (Stages.assembly s c d >>= Source.render c).map fun _ => ()

/-- The fields of its custom-field type have one identifier, and its product type has no letter to
make a class name of. -/
def broken : Schema :=
  .ofCollections
    [{ id := "t", key := "color", fields :=
        [{ name := "redShade", type := .string }, { name := "red_shade", type := .string }] }]
    [{ id := "p", name := "?" }]

end SchemaProjection.Stages
