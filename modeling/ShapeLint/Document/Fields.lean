import ShapeLint.Fault
import ShapeLint.Text.Blank

/-!
Reading typed fields out of document values. Numbers, counts and flags are read leniently, also
from other scalars that plainly mean one; texts are not.
-/
namespace ShapeLint.Field

/-- Why a value is no flag. -/
inductive FlagProblem where
  /-- A text or a whole number that means neither. -/
  | unclear
  /-- Another kind of value, or a number that is no 64-bit word. -/
  | wrongKind
  deriving DecidableEq, Repr

def flagText? (s : String) : Option Bool :=
  let lower := String.ofList (s.toList.map Char.toLower)
  if ["1", "on", "t", "true", "y", "yes"].contains lower then some true
  else if ["0", "off", "f", "false", "n", "no"].contains lower then some false
  else none

def flagCount (i : Int) : Except FlagProblem Bool :=
  if i = 1 then .ok true else if i = 0 then .ok false else .error .unclear

def flag : Value → Except FlagProblem Bool
  | .scalar (.bool b) => .ok b
  | .scalar (.text s) => (flagText? s).elim (.error .unclear) .ok
  | .scalar (.int i) =>
    if -(Int.pow 2 63) ≤ i ∧ i < Int.pow 2 63 then flagCount i else .error .wrongKind
  | .scalar (.float x) => x.toWord?.elim (.error .wrongKind) flagCount
  | _ => .error .wrongKind

/-- Drops underscores, if each of them stands alone inside the text. -/
def withoutUnderscores (cs : List Char) : List Char :=
  let doubled := (cs.zip (cs.drop 1)).contains ('_', '_')
  if doubled || cs.head? == some '_' || cs.getLast? == some '_' then cs
  else cs.filter (· != '_')

/-- A number literal, either with white space around it or with underscores inside it. A NaN that
is read takes the given token. -/
def numberText? (token : Nat) (s : String) : Option Binary64 :=
  let read (cs : List Char) := Binary64.ofText? token (String.ofList cs)
  (read (Text.trimBy Text.isSpace s.toList)).or (read (withoutUnderscores s.toList))

def isNonzeroDigit (c : Char) : Bool := c.isDigit && c != '0'

/-- Goes on after zeros and single underscores, of which `last` is the last. A zero in front of a
point stays, and so does the last one of all. -/
def afterZeros? (last : Char) : List Char → Option (List Char)
  | [] => some [last]
  | '.' :: rest => some (last :: '.' :: rest)
  | c :: rest =>
    if c == '0' || (c == '_' && last != '_') then afterZeros? c rest
    else if isNonzeroDigit c || c == '-' then some (c :: rest)
    else none

/-- Drops leading zeros. A minus may stand in front of them, where they stay, or after them. -/
def withoutLeadingZeros? : List Char → Option (List Char)
  | [] => none
  | c :: rest =>
    if c == '0' then afterZeros? c rest
    else if isNonzeroDigit c || c == '-' then some (c :: rest)
    else none

/-- Drops a fraction of zeros. -/
def withoutFraction? (cs : List Char) : Option (List Char) :=
  match cs.dropWhile (· != '.') with
  | [] => some cs
  | _ :: fraction =>
    if fraction.isEmpty || fraction.any (· != '0') then none
    else some (cs.takeWhile (· != '.'))

/-- Drops a plus, which no other sign may follow. -/
def withoutPlus? : List Char → Option (List Char)
  | '+' :: '-' :: _ => none
  | '+' :: rest => some rest
  | cs => some cs

/-- The longest text of an integer that is read. -/
def longestCount : Nat := 4300

/-- Digits without leading zeros, perhaps after a minus. -/
def strictCount? (cs : List Char) : Option Int :=
  let (negative, digits) : Bool × List Char :=
    match cs with
    | '-' :: digits => (true, digits)
    | digits => (false, digits)
  if digits.isEmpty || !digits.all Char.isDigit || longestCount < cs.length
      || (digits.head? == some '0' && 1 < digits.length) then none
  else
    let n : Int := Binary64.digitsValue digits
    some (if negative then -n else n)

/-- An integer with white space around it; zeros in front and behind the point and underscores
are dropped when it is not in its strict form. -/
def countText? (s : String) : Option Int :=
  let cs := Text.trimBy Text.isSpace s.toList
  (strictCount? cs).or do
    let cs ← withoutFraction? (← withoutLeadingZeros? (← withoutPlus? cs))
    strictCount? (withoutUnderscores cs)

/-- A number. An integer too large for the format is none. -/
def number? (token : Nat) : Value → Option Binary64
  | .scalar (.float x) => some x
  | .scalar (.int i) => let x := Binary64.ofInt i; if x.isFinite then some x else none
  | .scalar (.bool b) => some (.ofInt (if b then 1 else 0))
  | .scalar (.text s) => numberText? token s
  | _ => none

def count? : Value → Option Int
  | .scalar (.int i) => some i
  | .scalar (.bool b) => some (if b then 1 else 0)
  | .scalar (.float x) => x.toWord?
  | .scalar (.text s) => countText? s
  | _ => none

def items? : Value → Option (List Value)
  | .list _ xs | .tuple xs => some xs
  | _ => none

def texts? (v : Value) : Option (List String) := (items? v).bind (·.mapM Value.text?)

/-- A field that must hold what `read?` takes. -/
def expect {α : Type} (field : String) (read? : Value → Option α) (v : Value) : Except Fault α :=
  (read? v).elim (.error (.invalidField field)) .ok

/-- A field that may also be null. -/
def optional {α : Type} (field : String) (read? : Value → Option α) :
    Value → Except Fault (Option α)
  | .scalar .null => .ok none
  | v => (expect field read? v).map some

end ShapeLint.Field
