import ShapeLint.Descriptor
import ShapeLint.Text.Digit
import ShapeLint.Violation

/-!
Which rule governs a child of a node. Named properties come before extensions and additional
children, and only sequences have index keys. A resolver that fails on a value of an unexpected
shape leaves the child unvalidated.
-/
namespace ShapeLint

/-- Why a recognised child is not looked into. -/
inductive Leniency where
  | anything
  | resolverFailed (fault : Fault)
  | unsupported (rule : Value)

inductive Ruling where
  | reference (type : String)
  | leaf (leaf : Leaf)
  | unvalidated (why : Leniency)
  | extension
  | rejected

namespace Ruling

def ofFixed : FixedRule → Ruling
  | .reference type => reference type
  | .leaf l => leaf l
  | .unsupported rule => unvalidated (.unsupported rule)

/-- What a rule says about a child with this key and value. -/
def ofRule (rule : Rule) (key v : Value) : Except Fault Ruling :=
  match rule with
  | .anything => .ok (unvalidated .anything)
  | .fixed rule => .ok (ofFixed rule)
  | .computed resolver =>
    match resolver.pick v key with
    | .ok (some rule) => .ok (ofFixed rule)
    | .ok none => .ok rejected
    | .error fault =>
      if fault.degrades then .ok (unvalidated (.resolverFailed fault)) else .error fault

def accepted : Ruling → Bool
  | rejected => false
  | _ => true

/-- The log record that a lenient ruling leaves. -/
def record? (d : Descriptor) (key v : Value) : Ruling → Option LogRecord
  | unvalidated (.resolverFailed fault) =>
    let record : LogRecord := ⟨.debug, .childRules, "Resolver for " ++ d.name ++ "." ++ key.plain
      ++ " failed on " ++ v.shown ++ ": " ++ fault.message⟩
    record.showing [key, v]
  | unvalidated (.unsupported rule) =>
    let record : LogRecord :=
      ⟨.debug, .childRules, "Unsupported rule " ++ rule.shown ++ " for key " ++ key.shown⟩
    record.showing [rule, key]
  | _ => none

end Ruling

namespace Descriptor

/-- An index is a natural number, or a text of digits. -/
def isIndex : Value → Bool
  | .scalar (.int i) => 0 ≤ i
  | .scalar (.text s) => Text.isDigits s
  | _ => false

/-- The ruling on a child that no property or extension covers. -/
def rulingOnOthers (d : Descriptor) (key v : Value) : Except Fault Ruling :=
  match d.additional with
  | some rule => Ruling.ofRule rule key v
  | none => .ok .rejected

/-- The ruling on the child `v` under `key`. -/
def ruling (d : Descriptor) (key v : Value) : Except Fault Ruling :=
  match d.items with
  | some rule => if isIndex key then Ruling.ofRule rule key v else .ok .rejected
  | none =>
    match key with
    | .scalar (.text name) =>
      match d.properties.lookup name with
      | some rule => Ruling.ofRule rule key v
      | none => if d.isExtension name then .ok .extension else d.rulingOnOthers key v
    | _ => d.rulingOnOthers key v

end Descriptor

/-- A child with the ruling on it. -/
structure ResolvedChild where
  key : Step
  ruling : Ruling

/-- The step that a key stands for: a text, an integer or what counts as one. -/
def Step.ofValue? : Value → Option Step
  | .scalar (.text s) => some (.key s)
  | .scalar (.int i) => some (.index i)
  | .scalar (.bool b) => some (.index (if b then 1 else 0))
  | .scalar (.float x) => x.toWord?.map .index
  | _ => none

/-- Resolves the child `v` under `key`, with the log record of the ruling. A key that is no step
is refused after its rule has been applied. -/
def Descriptor.resolveChild (d : Descriptor) (key v : Value) : Journaled ResolvedChild :=
  match d.ruling key v with
  | .error fault => .of (.error fault)
  | .ok ruling =>
    { outcome := match Step.ofValue? key with
        | some step => .ok ⟨step, ruling⟩
        | none => .error (.invalidField "key")
      records := (ruling.record? d key v).toList }

end ShapeLint
