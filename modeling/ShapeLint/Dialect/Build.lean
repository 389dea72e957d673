import ShapeLint.Dialect
import ShapeLint.Settings
import ShapeLint.Shapes.AsyncApi2
import ShapeLint.Shapes.AsyncApi2.Protocols
import ShapeLint.Shapes.JsonSchema
import ShapeLint.Shapes.OpenApi2
import ShapeLint.Shapes.OpenApi3

/-!
Building the registry of a dialect: its types, then the bindings of single protocols, then the
self-check, then freezing.
-/
namespace ShapeLint.Dialect

/-- Defines all types of a dialect. -/
def defineTypes : Dialect → Assembly Unit
  | openApi3 => Assembly.defineAll Shapes.OpenApi3.types
  | openApi2 => Assembly.defineAll Shapes.OpenApi2.types
  | asyncApi2 => do
    Assembly.defineAll Shapes.JsonSchema.types
    Assembly.defineAll Shapes.AsyncApi2.types
    Shapes.AsyncApi2.installBindings

def assemble (d : Dialect) (settings : Settings) : Assembly Unit := do
  defineTypes d
  if settings.freeze then Assembly.freeze settings.selfCheck
  else if settings.selfCheck then Assembly.validate
  Assembly.log .debug .assembly
    ("Built " ++ d.name ++ " registry with " ++ toString (← Assembly.registry).size ++ " types")

/-- The registry of a dialect, with the log of its construction. -/
def build (d : Dialect) (settings : Settings) : Journaled Registry :=
  match (assemble d settings).run { registry := { dialect := d.name } } with
  | .ok _ bench => ⟨.ok bench.registry, bench.records⟩
  | .error fault bench => ⟨.error fault, bench.records⟩

end ShapeLint.Dialect
