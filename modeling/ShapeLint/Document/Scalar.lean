import ShapeLint.Number.Decimal
import ShapeLint.Text.Quoted

/-!
Scalars of a parsed document: their sameness and their text. Booleans, integers and floating
numbers are the same when they are equal as numbers, compared exactly; a NaN is the same only as
itself.
-/
namespace ShapeLint

/-- A calendar date. -/
structure Date where
  year : Nat
  month : Nat
  day : Nat
  deriving DecidableEq, Repr

inductive Scalar where
  | null
  | bool (b : Bool)
  | int (i : Int)
  | float (x : Binary64)
  | text (s : String)
  | date (d : Date)
  deriving Repr

namespace Date

/-- A number with leading zeros up to a width. -/
def padded (width n : Nat) : String :=
  let digits := toString n
  String.ofList (List.replicate (width - digits.length) '0') ++ digits

/-- Year, month and day with hyphens between them. -/
def text (d : Date) : String :=
  padded 4 d.year ++ "-" ++ padded 2 d.month ++ "-" ++ padded 2 d.day

def isLeapYear (year : Nat) : Bool := year % 4 == 0 && (year % 100 != 0 || year % 400 == 0)

def daysIn (year month : Nat) : Nat :=
  match month with
  | 2 => if isLeapYear year then 29 else 28
  | 4 | 6 | 9 | 11 => 30
  | _ => 31

/-- Whether there is such a day in the calendar. -/
def isValid (d : Date) : Bool :=
  1 ≤ d.year && 1 ≤ d.month && d.month ≤ 12 && 1 ≤ d.day && d.day ≤ daysIn d.year d.month

/-- Reads the hyphenated form of a date of the calendar. -/
def ofText? (s : String) : Option Date := do
  let [year, month, day] := (s.splitOn "-").map fun part => part.toList | none
  let number (width : Nat) (cs : List Char) : Option Nat :=
    if cs.length = width ∧ cs.all Char.isDigit then some (Binary64.digitsValue cs) else none
  let d : Date := ⟨← number 4 year, ← number 2 month, ← number 2 day⟩
  if d.isValid then some d else none

end Date

namespace Scalar

/-- The number that a boolean, an integer or a floating number counts as in comparisons. -/
def quantity? : Scalar → Option Quantity
  | bool b => some (.ofInt (if b then 1 else 0))
  | int i => some (.ofInt i)
  | float x => some (.ofBinary64 x)
  | _ => none

def same (a b : Scalar) : Bool :=
  match a.quantity?, b.quantity? with
  | some p, some q => p == q
  | none, none =>
    match a, b with
    | null, null => true
    | text s, text t => s == t
    | date d, date e => d == e
    | _, _ => false
  | _, _ => false

instance : BEq Scalar := ⟨same⟩

/-- The limit of the runtime on integers that are written as texts: those of up to 4300 digits are
below it. -/
def digitBound : Nat := Nat.pow (Nat.pow 10 100) 43

/-- Whether the scalar can be written out. Only integers of very many digits cannot. -/
def isWritable : Scalar → Bool
  | int i => i.natAbs < digitBound
  | _ => true

/-- Plain text of a scalar, as far as it can be written. -/
def plain : Scalar → String
  | null => "None"
  | bool b => if b then "True" else "False"
  | int i => toString i
  | float x => x.text
  | text s => s
  | date d => d.text

/-- Text of a scalar inside a container, where texts are quoted and dates spelled out. -/
def shown : Scalar → String
  | text s => Text.quoted s
  | date d => s!"datetime.date({d.year}, {d.month}, {d.day})"
  | s => s.plain

/-- Scalars that count as absent: null, false, zero and the empty text. -/
def isEmpty : Scalar → Bool
  | null => true
  | bool b => !b
  | int i => i == 0
  | float x => x.isZero
  | text s => s.isEmpty
  | date _ => false

/-- Name of the scalar's type. -/
def typeName : Scalar → String
  | null => "null"
  | bool _ => "boolean"
  | int _ => "integer"
  | float _ => "number"
  | text _ => "string"
  | date _ => "date"

@[simp] theorem text_beq_text (s t : String) : ((text s : Scalar) == text t) = (s == t) := rfl

end Scalar

end ShapeLint
