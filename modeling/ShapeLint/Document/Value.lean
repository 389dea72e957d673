import ShapeLint.Document.Scalar

/-!
Parsed documents. Lists and mappings carry an identity, so that one container may stand at
several places of a document; a mapping keeps the order of its entries. No value stands inside
itself: documents in which containers do are graphs, and values are what is seen of them.
-/
namespace ShapeLint

inductive Value where
  | scalar (s : Scalar)
  /-- A fixed sequence, which is no container of its own. -/
  | tuple (items : List Value)
  | list (identity : Nat) (items : List Value)
  | mapping (identity : Nat) (entries : List (Scalar × Value))
  deriving Inhabited

/-- Replaces the value of a key in place, or adds the key at the end. -/
def setEntry {κ α : Type} [BEq κ] (key : κ) (value : α) : List (κ × α) → List (κ × α)
  | [] => [(key, value)]
  | (k, v) :: rest => if key == k then (k, value) :: rest else (k, v) :: setEntry key value rest

/-- The entries of a list of pairs: a repeated key keeps its place and takes its last value. -/
def entriesOf {κ α : Type} [BEq κ] (pairs : List (κ × α)) : List (κ × α) :=
  pairs.foldl (fun entries (key, value) => setEntry key value entries) []

namespace Value

abbrev null : Value := scalar .null
abbrev bool (b : Bool) : Value := scalar (.bool b)
abbrev int (i : Int) : Value := scalar (.int i)
abbrev text (s : String) : Value := scalar (.text s)

/-- Fixed lists that tables and functions give, outside any document. -/
def texts (items : List String) : Value := list 0 (items.map text)

def isMapping : Value → Bool
  | mapping .. => true
  | _ => false

def text? : Value → Option String
  | scalar (.text s) => some s
  | _ => none

/-- The value under a text key of a mapping. -/
def field? (key : String) : Value → Option Value
  | mapping _ entries => entries.lookup (.text key)
  | _ => none

mutual

/-- Sameness of values: scalars as numbers or texts, sequences item by item, mappings by keys
whatever their order. Identity plays no part. -/
def same : Value → Value → Bool
  | scalar s, scalar t => s == t
  | tuple xs, tuple ys => sameItems xs ys
  | list _ xs, list _ ys => sameItems xs ys
  | mapping _ es, mapping _ fs => es.length == fs.length && sameEntries es fs
  | _, _ => false

def sameItems : List Value → List Value → Bool
  | [], [] => true
  | x :: xs, y :: ys => same x y && sameItems xs ys
  | _, _ => false

/-- Every entry has a like one in the second mapping. -/
def sameEntries : List (Scalar × Value) → List (Scalar × Value) → Bool
  | [], _ => true
  | (key, x) :: es, fs =>
    (match fs.lookup key with
      | some y => same x y
      | none => false) && sameEntries es fs

end

/-- Name of the type a value has in a document. Tuples count as arrays. -/
def typeName : Value → String
  | scalar s => s.typeName
  | tuple _ | list .. => "array"
  | mapping .. => "object"

mutual

/-- Text of a value that stands inside the containers of these identities. A container inside itself
is not opened again. -/
def shownIn (above : List Nat) : Value → String
  | scalar s => s.shown
  | tuple [x] => "(" ++ shownIn above x ++ ",)"
  | tuple xs => "(" ++ ", ".intercalate (shownItems above xs) ++ ")"
  | list identity xs =>
    if above.contains identity then "[...]"
    else "[" ++ ", ".intercalate (shownItems (identity :: above) xs) ++ "]"
  | mapping identity es =>
    if above.contains identity then "\x7b...\x7d"
    else "\x7b" ++ ", ".intercalate (shownEntries (identity :: above) es) ++ "\x7d"

def shownItems (above : List Nat) : List Value → List String
  | [] => []
  | x :: xs => shownIn above x :: shownItems above xs

def shownEntries (above : List Nat) : List (Scalar × Value) → List String
  | [] => []
  | (key, x) :: es => (key.shown ++ ": " ++ shownIn above x) :: shownEntries above es

end

/-- Text of a value in a log line. -/
def shown (v : Value) : String := v.shownIn []

/-- Text of a value in a message: a scalar's plain text, a container as it is shown. -/
def plain : Value → String
  | scalar s => s.plain
  | v => v.shown

mutual

/-- Whether every scalar in a value can be written out. -/
def isWritable : Value → Bool
  | scalar s => s.isWritable
  | tuple xs | list _ xs => itemsWritable xs
  | mapping _ es => entriesWritable es

def itemsWritable : List Value → Bool
  | [] => true
  | x :: xs => isWritable x && itemsWritable xs

def entriesWritable : List (Scalar × Value) → Bool
  | [] => true
  | (key, x) :: es => key.isWritable && isWritable x && entriesWritable es

end

theorem itemsWritable_eq (xs : List Value) : itemsWritable xs = xs.all isWritable := by
  induction xs with
  | nil => rfl
  | cons x xs ih => simp [itemsWritable, ih]

theorem entriesWritable_eq (es : List (Scalar × Value)) :
    entriesWritable es = es.all fun (key, x) => key.isWritable && isWritable x := by
  induction es with
  | nil => rfl
  | cons e es ih => simp [entriesWritable, ih]

/-- Values that count as absent: empty scalars, sequences and mappings. -/
def isEmpty : Value → Bool
  | scalar s => s.isEmpty
  | tuple xs | list _ xs => xs.isEmpty
  | mapping _ es => es.isEmpty

mutual

/-- Number of lists and mappings in a value, each place counted. -/
def containers : Value → Nat
  | scalar _ => 0
  | tuple xs => containersOfItems xs
  | list _ xs => containersOfItems xs + 1
  | mapping _ es => containersOfEntries es + 1

def containersOfItems : List Value → Nat
  | [] => 0
  | x :: xs => containers x + containersOfItems xs

def containersOfEntries : List (Scalar × Value) → Nat
  | [] => 0
  | (_, x) :: es => containers x + containersOfEntries es

end

mutual

/-- A new copy: containers numbered from `first` on take the identity `shift` further up, and
those numbered below it stay the same objects. -/
def renewed (first shift : Nat) : Value → Value
  | scalar s => scalar s
  | tuple xs => tuple (renewedItems first shift xs)
  | list identity xs =>
    if identity < first then list identity xs
    else list (identity + shift) (renewedItems first shift xs)
  | mapping identity es =>
    if identity < first then mapping identity es
    else mapping (identity + shift) (renewedEntries first shift es)

def renewedItems (first shift : Nat) : List Value → List Value
  | [] => []
  | x :: xs => renewed first shift x :: renewedItems first shift xs

def renewedEntries (first shift : Nat) : List (Scalar × Value) → List (Scalar × Value)
  | [] => []
  | (key, x) :: es => (key, renewed first shift x) :: renewedEntries first shift es

end

/-- Follows the steps of a local pointer through text keys of mappings, taken literally. -/
def follow? : List String → Value → Option Value
  | [], v => some v
  | step :: steps, v => (v.field? step).bind (follow? steps)

/-- The target of a local pointer `#/step/step`. -/
def localTarget? (pointer : String) (root : Value) : Option Value :=
  if pointer.startsWith "#/" then follow? ((pointer.drop 2).toString.splitOn "/") root else none

end Value

end ShapeLint
