import SchemaProjection.Error

namespace SchemaProjection

inductive Event where
  | synthesizedCustomFields (typeKey className : String) (fields : Nat)
  | synthesizedVariantAttributes (productTypeId className : String) (attributes : Nat)
  | assembled (domain : Domain) (classes : Nat)
  | degraded (domain : Domain) (className field : String)
  | skipped (domain : Domain)
  | written (path : String) (bytes : Nat)
  deriving DecidableEq, Repr

inductive EventLevel where
  | debug
  | info
  | warn
  deriving DecidableEq, Repr

namespace Event

def level : Event → EventLevel
  | synthesizedCustomFields .. => .debug
  | synthesizedVariantAttributes .. => .debug
  | degraded .. => .warn
  | _ => .info

def message : Event → String
  | synthesizedCustomFields .. => "synthesized custom fields class"
  | synthesizedVariantAttributes .. => "synthesized variant attributes class"
  | assembled .. => "assembled output unit"
  | degraded .. => "field degraded to a generic type"
  | skipped .. => "no definitions, skipping"
  | written .. => "wrote generated file"

end Event

structure Run (α : Type) where
  events : List Event
  outcome : Except GenerationError α

namespace Run

variable {α β : Type}

def log (e : Event) : Run Unit := ⟨[e], .ok ()⟩

def ofExcept (x : Except GenerationError α) : Run α := ⟨[], x⟩

def fail (e : GenerationError) : Run α := ⟨[], .error e⟩

protected def bind (r : Run α) (f : α → Run β) : Run β :=
  match r.outcome with
  | .error e => ⟨r.events, .error e⟩
  | .ok a => ⟨r.events ++ (f a).events, (f a).outcome⟩

instance : Monad Run where
  pure a := ⟨[], .ok a⟩
  bind := Run.bind

end Run

end SchemaProjection
