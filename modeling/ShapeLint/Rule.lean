import ShapeLint.Journal
import ShapeLint.Leaf

/-!
Rules for the children of a node, the lists of keys that a descriptor holds, and the functions that
rules and key lists may be computed by.
-/
namespace ShapeLint

/-- Which function a function is. Those of the dialect tables are told apart by the dialect they
belong to and their name, the others by a number. -/
inductive FunctionId where
  | table (dialect name : String)
  | given (number : Nat)
  deriving DecidableEq, Repr

/-- A rule that needs no further computing. -/
inductive FixedRule where
  /-- The child is a node of the named type. -/
  | reference (type : String)
  | leaf (leaf : Leaf)
  /-- A value that is no rule. -/
  | unsupported (rule : Value)

/-- A function that picks the rule for a child from its value and its key. Picking none rejects
the key. -/
structure Resolver where
  name : String
  id : FunctionId
  pick : Value → Value → Except Fault (Option FixedRule)

inductive Rule where
  /-- The child is recognised, with nothing to check. -/
  | anything
  | fixed (rule : FixedRule)
  | computed (resolver : Resolver)

/-- A function that lists keys for a node. What it gives need not be a list. -/
structure Conditional where
  name : String
  id : FunctionId
  keys : Value → Except Fault Value

/-- A list of keys that can still grow, or one that is fixed. -/
inductive KeyList where
  | growing (keys : List String)
  | fixed (keys : List String)
  deriving DecidableEq, Repr

/-- The keys that a node must have. -/
inductive Requirement where
  | listed (keys : KeyList)
  | computed (conditional : Conditional)

/-- The rules of named children, in order, each key once: a table that can still grow, or a
read-only view of one. -/
inductive RuleTable where
  | growing (entries : List (String × Rule))
  | view (entries : List (String × Rule))

namespace FixedRule

def same : FixedRule → FixedRule → Bool
  | reference s, reference t => s == t
  | leaf a, leaf b => a.same b
  | unsupported v, unsupported w => v.same w
  | _, _ => false

/-- The type names that a rule refers to. -/
def targets : FixedRule → List String
  | reference type => [type]
  | leaf l => l.targets
  | unsupported _ => []

end FixedRule

namespace Rule

/-- Rules are the same when they are equal as names, leaves or values; functions only when they
are the same function. -/
def same : Rule → Rule → Bool
  | anything, anything => true
  | fixed a, fixed b => a.same b
  | computed a, computed b => a.id == b.id
  | _, _ => false

/-- Resolvers are not looked into. -/
def targets : Rule → List String
  | fixed rule => rule.targets
  | _ => []

abbrev reference (type : String) : Rule := fixed (.reference type)
abbrev leaf (leaf : Leaf) : Rule := fixed (.leaf leaf)

end Rule

namespace KeyList

def toList : KeyList → List String
  | growing keys | fixed keys => keys

/-- The list as a value: one that can grow is a list, one that is fixed a tuple. -/
def value : KeyList → Value
  | growing keys => .texts keys
  | fixed keys => .tuple (keys.map .text)

/-- The same keys in a list that is fixed. -/
def fix (keys : KeyList) : KeyList := fixed keys.toList

@[simp] theorem toList_fix (keys : KeyList) : keys.fix.toList = keys.toList := rfl

end KeyList

namespace RuleTable

def entries : RuleTable → List (String × Rule)
  | growing entries | view entries => entries

def isView : RuleTable → Bool
  | growing _ => false
  | view _ => true

/-- A view of the same entries. -/
def asView (table : RuleTable) : RuleTable := view table.entries

/-- The table with entries behind its own. -/
def append (table : RuleTable) (added : List (String × Rule)) : RuleTable :=
  match table with
  | growing entries => growing (entries ++ added)
  | view entries => view (entries ++ added)

@[simp] theorem entries_append (table : RuleTable) (added : List (String × Rule)) :
    (table.append added).entries = table.entries ++ added := by
  cases table <;> rfl

end RuleTable

namespace Requirement

/-- Keys that are listed one by one. -/
abbrev ofKeys (keys : List String) : Requirement := listed (.growing keys)

/-- The same requirement, with its list of keys fixed if it has one. -/
def fix : Requirement → Requirement
  | listed keys => listed keys.fix
  | computed f => computed f

def same : Requirement → Requirement → Bool
  | listed a, listed b => a == b
  | computed a, computed b => a.id == b.id
  | _, _ => false

end Requirement

/-- The name of the kind a value is of, where faults and descriptions tell it. -/
def Value.kindName : Value → String
  | .scalar .null => "NoneType"
  | .scalar (.bool _) => "bool"
  | .scalar (.int _) => "int"
  | .scalar (.float _) => "float"
  | .scalar (.text _) => "str"
  | .scalar (.date _) => "date"
  | .tuple _ => "tuple"
  | .list .. => "list"
  | .mapping .. => "dict"

end ShapeLint
