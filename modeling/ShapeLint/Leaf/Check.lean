import ShapeLint.Leaf
import ShapeLint.Violation

/-!
Checking a value against a leaf. A leaf that is not resolvable accepts everything, a value of the
wrong type is reported for that alone, and an example is checked no further than its type.
-/
namespace ShapeLint

/-- Whether a value is of a type a leaf may expect. A boolean is no number, an integral floating
number is an integer, and a type of another name is that of every value. -/
def matchesType (expected : String) (v : Value) : Bool :=
  match expected, v with
  | "string", .scalar (.text _) => true
  | "string", _ => false
  | "boolean", .scalar (.bool _) => true
  | "boolean", _ => false
  | "integer", .scalar (.int _) => true
  | "integer", .scalar (.float x) => x.toInt?.isSome
  | "integer", _ => false
  | "number", .scalar (.int _) | "number", .scalar (.float _) => true
  | "number", _ => false
  | "array", .list .. | "array", .tuple _ => true
  | "array", _ => false
  | "object", .mapping .. => true
  | "object", _ => false
  | "null", .scalar .null => true
  | "null", _ => false
  | _, _ => true

namespace Leaf

/-- Texts between backquotes, with commas. -/
def ticked (texts : List String) : String :=
  ", ".intercalate (texts.map fun s => "`" ++ s ++ "`")

/-- The violation of a facet at the end of a path. -/
def violation (code : ViolationCode) (typeName : String) (path : Path) (message : String) :
    Violation :=
  { code, typeName, key := path.lastKey?, path, message }

/-- The violation of a value that is none of the choices, which its message names. -/
def notAmong (choices : List Value) (v : Value) (path : Path) (typeName : String) : Violation :=
  violation .enumMismatch typeName path ("`" ++ v.plain ++
    "` should be one of the allowed values: " ++ ticked (choices.map Value.plain) ++ ".")

def checkChoices (facets : Facets) (v : Value) (path : Path) (typeName : String) :
    Except Fault (List Violation) :=
  match facets.choices with
  | some choices =>
    if choices.any (v.same ·) then .ok []
    else writing (v :: choices) [notAmong choices v path typeName]
  | none => .ok []

/-- The number that bounds are compared with. Booleans have none. -/
def boundedQuantity? : Value → Option Quantity
  | .scalar (.int i) => some (.ofInt i)
  | .scalar (.float x) => some (.ofBinary64 x)
  | _ => none

def checkBounds (facets : Facets) (v : Value) (path : Path) (typeName : String) :
    List Violation :=
  match boundedQuantity? v with
  | none => []
  | some q =>
    (match facets.minimum with
      | some least =>
        if q.below (.ofBinary64 least) then
          [violation .outOfRange typeName path
            ("Value must be greater than or equal to " ++ least.text ++ ".")]
        else []
      | none => [])
    ++ (match facets.maximum with
      | some most =>
        if (Quantity.ofBinary64 most).below q then
          [violation .outOfRange typeName path
            ("Value must be less than or equal to " ++ most.text ++ ".")]
        else []
      | none => [])

/-- A pattern is read only when there is a text to look at. -/
def checkPattern (facets : Facets) (v : Value) (path : Path) (typeName : String) :
    Except Fault (List Violation) :=
  match facets.pattern, v with
  | some pattern, .scalar (.text s) =>
    match pattern.search? with
    | none => .error (.invalidPattern pattern.written)
    | some search =>
      if search s then .ok []
      else .ok [violation .patternMismatch typeName path
        ("`" ++ s ++ "` does not match the pattern `" ++ pattern.written ++ "`.")]
  | _, _ => .ok []

/-- The bounds that a number of items is on the wrong side of. -/
def exceeded (facets : Facets) (count : Nat) : List (String × Int) :=
  ((facets.minItems.filter fun least => (count : Int) < least).toList.map fun least =>
      ("at least", least))
    ++ (facets.maxItems.filter fun most => most < (count : Int)).toList.map fun most =>
      ("at most", most)

def miscounted (count : Nat) (path : Path) (typeName side : String) (bound : Int) : Violation :=
  violation .cardinality typeName path
    ("Expected " ++ side ++ " " ++ toString bound ++ " items but got " ++ toString count ++ ".")

def checkCardinality (facets : Facets) (v : Value) (path : Path) (typeName : String) :
    Except Fault (List Violation) :=
  match v with
  | .list _ xs | .tuple xs =>
    let bounds := exceeded facets xs.length
    writing (bounds.map fun (_, bound) => .int bound)
      (bounds.map fun (side, bound) => miscounted xs.length path typeName side bound)
  | _ => .ok []

/-- The checks of a leaf's own facets. -/
def checkFacets (facets : Facets) (v : Value) (path : Path) (typeName : String) :
    Except Fault (List Violation) := do
  let choices ← checkChoices facets v path typeName
  let pattern ← checkPattern facets v path typeName
  let cardinality ← checkCardinality facets v path typeName
  return choices ++ checkBounds facets v path typeName ++ pattern ++ cardinality

/-- The members of a sequence with the steps that lead to them. -/
def numbered (xs : List Value) : List (Step × Value) :=
  xs.zipIdx.map fun (x, position) => (.index position, x)

/-- The values of a mapping with the steps that lead to them. -/
def keyed (entries : List (Scalar × Value)) : List (Step × Value) :=
  entries.map fun (key, x) => (key.step, x)

/-- Checks members in order and joins what is found, up to the first fault. -/
def checkMembers (check : Value → Path → Except Fault (List Violation))
    (members : List (Step × Value)) (path : Path) : Except Fault (List Violation) := do
  let found ← members.mapM fun (step, x) => do
    step.take
    check x (path ++ [step])
  return found.flatten

def check : Leaf → Value → Path → String → Except Fault (List Violation)
  | ⟨facets, items, entries⟩, v, path, typeName =>
    if !facets.resolvable then .ok []
    else match (nonempty? facets.type).filter (!matchesType · v) with
    | some expected => .ok [typeMismatch expected v typeName path]
    | none =>
      if facets.isExample then .ok []
      else do
        let own ← checkFacets facets v path typeName
        let members ← match v with
          | .list _ xs | .tuple xs =>
            match items with
            | some leaf =>
              checkMembers (fun x path => leaf.check x path typeName) (numbered xs) path
            | none => .ok []
          | .mapping _ es =>
            match entries with
            | some leaf => checkMembers (fun x path => leaf.check x path typeName) (keyed es) path
            | none => .ok []
          | .scalar _ => .ok []
        return own ++ members

end Leaf

end ShapeLint
