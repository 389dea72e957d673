import ShapeLint.Descriptor.Child
import ShapeLint.Descriptor.Keys
import ShapeLint.Leaf.Check
import ShapeLint.Registry

/-!
The walk over a parsed document: a node is visited as a type, its keys are checked, and each of its
children is visited, checked as a leaf or reported, as the rules of the type say. A container is
visited at most once as each type, so shared containers and circular pointers end the walk.
-/
namespace ShapeLint

/-- Answers a pointer, given the pointers asked before; null when there is no target. The same
pointer may be answered differently each time, and a question may also fail. -/
abbrev PointerAnswers := List Value → Value → Except Fault Value

/-- What stays fixed during a walk. Without answers no pointer is followed. -/
structure Surroundings where
  registry : Registry
  answers : Option PointerAnswers := none

/-- What a walk has done so far. -/
structure Traversal where
  visited : List (Nat × String) := []
  violations : List Violation := []
  /-- Pointers asked, in order. -/
  asked : List Value := []
  records : List LogRecord := []

/-- A walk keeps its findings when it fails. -/
abbrev Walk := EStateM Fault Traversal

namespace Walk

variable {α : Type}

def report (found : List Violation) : Walk Unit :=
  modify fun t => { t with violations := t.violations ++ found }

def log (records : List LogRecord) : Walk Unit :=
  modify fun t => { t with records := t.records ++ records }

/-- Reports what is found when a value is written into the message. -/
def reportNaming (v : Value) (found : Violation) : Walk Unit := do
  report (← ofExcept (writing [v] [found]))

def ofJournaled (x : Journaled α) : Walk α := do
  log x.records
  ofExcept x.outcome

/-- Marks a container as visited as a type. Tells whether it was not before. -/
def enter (identity : Nat) (type : String) : Walk Bool := do
  if (← get).visited.contains (identity, type) then return false
  modify fun t => { t with visited := t.visited ++ [(identity, type)] }
  return true

/-- Asks for the target of a pointer. -/
def ask (answers : PointerAnswers) (pointer : Value) : Walk Value := do
  let target := answers (← get).asked pointer
  modify fun t => { t with asked := t.asked ++ [pointer] }
  ofExcept target

/-- The violation of a pointer without a target. -/
def unresolved (pointer : Value) (type : String) (path : Path) : Violation :=
  { code := .unresolvedRef
    typeName := type
    key := none
    path
    message := "Can't resolve $ref: `" ++ pointer.plain ++ "`." }

/-- The violation of a direct pointer whose target is no mapping. -/
def unfitTarget (pointer : Value) (type : String) (path : Path) : Violation :=
  { code := .mappingTargetNotSchema
    typeName := type
    key := none
    path
    message := "Mapping target `" ++ pointer.plain ++ "` does not point to a " ++ type ++ "." }

/-- The log record of a pointer with a target to visit. -/
def following (pointer : Value) (type : String) : Option LogRecord :=
  let record : LogRecord := ⟨.debug, .walk, "Following " ++ pointer.plain ++ " as " ++ type⟩
  record.showing [pointer]

/-- How the nodes below are visited. -/
abbrev Visit := Value → String → Path → Walk Unit

/-- Visits the target of a pointer as the type. A direct pointer, found in a leaf, must lead to a
mapping. -/
def follow (s : Surroundings) (visit : Visit) (direct : Bool) (pointer : Value) (type : String)
    (path : Path) : Walk Unit := do
  match s.answers with
  | none => pure ()
  | some answers =>
    let target ← ask answers pointer
    match target with
    | .scalar .null => reportNaming pointer (unresolved pointer type path)
    | target =>
      if direct && !target.isMapping then reportNaming pointer (unfitTarget pointer type path)
      else
        log (following pointer type).toList
        visit target type path

/-- Checks a leaf and, if the value passes and is a direct pointer, follows it. -/
def visitLeaf (s : Surroundings) (visit : Visit) (d : Descriptor) (leaf : Leaf) (v : Value)
    (path : Path) : Walk Unit := do
  let found ← ofExcept (leaf.check v path d.name)
  report found
  match nonempty? leaf.resolveAs with
  | some type => if found.isEmpty then follow s visit true v type path
  | none => pure ()

def unknownKey (d : Descriptor) (key : String) (path : Path) : Violation :=
  { code := .unknownKey
    typeName := d.name
    key := some key
    path
    message := "Property `" ++ key ++ "` is not expected here." }

/-- The value under which rules see a step. -/
def stepKey : Step → Value
  | .key name => .text name
  | .index position | .unwritten position => .int position

/-- The ruling on the child that a step leads to. -/
def rulingAt (d : Descriptor) (step : Step) (v : Value) : Except Fault Ruling := do
  step.take
  d.ruling (stepKey step) v

/-- Does what the rules say about one child. -/
def visitChild (s : Surroundings) (visit : Visit) (d : Descriptor) (path : Path) (step : Step)
    (v : Value) : Walk Unit := do
  let ruling ← ofExcept (rulingAt d step v)
  log (ruling.record? d (stepKey step) v).toList
  let path := path ++ [step]
  match ruling with
  | .rejected => report [unknownKey d step.text path]
  | .reference type => visit v type path
  | .leaf leaf => visitLeaf s visit d leaf v path
  | .unvalidated _ | .extension => pure ()

def visitChildren (s : Surroundings) (visit : Visit) (d : Descriptor) (path : Path)
    (members : List (Step × Value)) : Walk Unit :=
  members.forM fun (step, v) => visitChild s visit d path step v

/-- The text under `$ref` that makes a mapping stand for another node. -/
def pointer? (entries : List (Scalar × Value)) : Option String :=
  (entries.lookup (.text "$ref")).bind Value.text?

/-- What a sequence descriptor, or any other, expects. -/
def expectedType (d : Descriptor) : String := if d.isSequence then "array" else "object"

/-- One visit, given how the nodes below are visited. -/
def visitNode (s : Surroundings) (visit : Visit) (node : Value) (type : String) (path : Path) :
    Walk Unit := do
  match node with
  | .mapping identity entries =>
    if ← enter identity type then
      match pointer? entries with
      | some pointer => follow s visit false (.text pointer) type path
      | none =>
        let d ← ofExcept (s.registry.lookup type)
        if d.isSequence then report [typeMismatch "array" node d.name path]
        else
          report (← ofJournaled (d.checkNode node path))
          visitChildren s visit d path (Leaf.keyed entries)
  | .list identity items =>
    if ← enter identity type then
      let d ← ofExcept (s.registry.lookup type)
      if d.isSequence then visitChildren s visit d path (Leaf.numbered items)
      else report [typeMismatch "object" node d.name path]
  | _ =>
    let d ← ofExcept (s.registry.lookup type)
    report [typeMismatch (expectedType d) node d.name path]

/-- Visits nodes that are opened before anything is done with them, at most so many deep. -/
def visitOpened (opened : Value → Value) (s : Surroundings) : Nat → Visit
  | 0 => fun _ _ _ => throw .nestingTooDeep
  | depth + 1 => fun node type path =>
    visitNode s (visitOpened opened s depth) (opened node) type path

/-- Visits a node as a type, at most so many nodes deep. -/
def visit (s : Surroundings) : Nat → Visit := visitOpened id s

theorem visit_succ (s : Surroundings) (depth : Nat) (node : Value) (type : String) (path : Path) :
    visit s (depth + 1) node type path = visitNode s (visit s depth) node type path := rfl

end Walk

end ShapeLint
