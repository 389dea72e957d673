import ShapeLint.Descriptor
import ShapeLint.Violation

/-!
The checks of a node's own keys: required keys, groups of which one key must be present, and
allow-lists. A function that fails on a node of an unexpected shape contributes nothing.
-/
namespace ShapeLint

namespace Value

/-- The keys that a value lists: its items, its characters or its keys. Empty values list none. -/
def keys (v : Value) : Except Fault (List Value) :=
  if v.isEmpty then .ok []
  else match v with
    | list _ xs | tuple xs => .ok xs
    | mapping _ es => .ok (es.map fun (key, _) => scalar key)
    | scalar (.text s) => .ok (s.toList.map fun c => text c.toString)
    | scalar (.date _) => .error (.notIterable "datetime.date")
    | v => .error (.notIterable v.kindName)

mutual

/-- The first part of a value that cannot be looked up as a key: lists and mappings cannot. -/
def unhashable? : Value → Option Value
  | scalar _ => none
  | tuple xs => unhashableItem? xs
  | v => some v

def unhashableItem? : List Value → Option Value
  | [] => none
  | x :: xs => (unhashable? x).or (unhashableItem? xs)

end

/-- Looks a value up among the keys of a mapping. A tuple is the same as no scalar key. -/
def isKeyOf (entries : List (Scalar × Value)) (key : Value) : Except Fault Bool :=
  match key.unhashable?, key with
  | some part, _ => .error (.unhashable part.kindName)
  | none, scalar s => .ok (entries.lookup s).isSome
  | none, _ => .ok false

end Value

namespace Descriptor

/-- The keys that a node must have. -/
def requiredKeys (d : Descriptor) (node : Value) : Journaled (List Value) :=
  match d.required with
  | .listed keys => .of keys.value.keys
  | .computed f =>
    match f.keys node with
    | .ok v => .of v.keys
    | .error fault =>
      if fault.degrades then
        let record : LogRecord := ⟨.debug, .keyChecks,
          "Required keys of " ++ d.name ++ " failed on " ++ node.shown ++ ": " ++ fault.message⟩
        ⟨.ok [], (record.showing [node]).toList⟩
      else .of (.error fault)

/-- The violation of a required key that is absent. Only texts and null can be named as keys, and
the message is written before that is looked at. -/
def missing (d : Descriptor) (path : Path) (key : Value) : Except Fault Violation :=
  let report (named : Option String) : Violation :=
    { code := .missingRequired
      typeName := d.name
      key := named
      path
      message := "The field `" ++ key.plain ++ "` must be present on this level." }
  match key with
  | .scalar (.text s) => .ok (report (some s))
  | .scalar .null => .ok (report none)
  | key => do
    writing [key] ()
    throw (.invalidField "key")

/-- The violations of absent keys, key by key. -/
def missingKeys (d : Descriptor) (entries : List (Scalar × Value)) (path : Path) :
    List Value → Except Fault (List Violation)
  | [] => .ok []
  | key :: keys => do
    if ← key.isKeyOf entries then d.missingKeys entries path keys
    else
      let violation ← d.missing path key
      return violation :: (← d.missingKeys entries path keys)

def checkRequired (d : Descriptor) (node : Value) (path : Path) : Journaled (List Violation) :=
  match node with
  | .mapping _ entries => do .of (d.missingKeys entries path (← d.requiredKeys node))
  | _ => pure []

def checkRequiredOneOf (d : Descriptor) (node : Value) (path : Path) : List Violation :=
  match node, d.requiredOneOf with
  | .mapping _ entries, some group =>
    if group.isEmpty || group.any (fun key => (entries.lookup (.text key)).isSome) then []
    else [{
      code := .missingRequiredOneOf
      typeName := d.name
      key := none
      path
      message := "Must contain at least one of the following fields: "
        ++ ", ".intercalate (group.map fun key => "`" ++ key ++ "`") ++ "." }]
  | _, _ => []

/-- The texts that an allow-list function lists for a node. The list may hold other values too, as
long as they can be looked up. -/
def allowedKeys (f : Conditional) (node : Value) : Except Fault (List String) := do
  let keys ← (← f.keys node).keys
  match keys.findSome? Value.unhashable? with
  | some part => .error (.unhashable part.kindName)
  | none => return keys.filterMap Value.text?

def disallowed (d : Descriptor) (path : Path) (key : String) : Violation :=
  { code := .disallowedKey
    typeName := d.name
    key := some key
    path := path ++ [.key key]
    message := "Property `" ++ key ++ "` is not allowed here." }

/-- The violations of keys that are neither allowed nor extensions, if all keys can be written. -/
def disallowedKeys (d : Descriptor) (entries : List (Scalar × Value)) (path : Path)
    (allowed : List String) : Except Fault (List Violation) :=
  let outside := (entries.map fun (key, _) => key.plain).filter fun key =>
    !(allowed.contains key || d.isExtension key)
  writing (entries.map fun (key, _) => .scalar key) (outside.map (d.disallowed path))

def checkAllowed (d : Descriptor) (node : Value) (path : Path) : Journaled (List Violation) :=
  match node, d.allowed with
  | .mapping _ entries, some f =>
    match allowedKeys f node with
    | .ok allowed => .of (d.disallowedKeys entries path allowed)
    | .error fault =>
      if fault.degrades then
        let record : LogRecord := ⟨.debug, .keyChecks,
          "Allowed keys of " ++ d.name ++ " failed on " ++ node.shown ++ ": " ++ fault.message⟩
        ⟨.ok [], (record.showing [node]).toList⟩
      else .of (.error fault)
  | _, _ => pure []

/-- The three checks of one node, in order. -/
def checkNode (d : Descriptor) (node : Value) (path : Path) : Journaled (List Violation) := do
  let missing ← d.checkRequired node path
  let disallowed ← d.checkAllowed node path
  return missing ++ d.checkRequiredOneOf node path ++ disallowed

end Descriptor

end ShapeLint
