/-!
Numbers of the binary64 format, kept as sign, significand and exponent so that comparing them
with integers of any size is exact. A rational is rounded to the nearest of them, ties to the
even significand.
-/
namespace ShapeLint

/-- A finite number stands for `± significand * 2 ^ exponent`. Each NaN read from a document is
a value of its own, told apart by its token. -/
inductive Binary64 where
  | finite (negative : Bool) (significand : Nat) (exponent : Int)
  | infinite (negative : Bool)
  | nan (token : Nat)
  deriving DecidableEq, Repr

namespace Binary64

/-- Exponent of the subnormal numbers and of zero. -/
def minExponent : Int := -1074

/-- Largest exponent of a full significand. -/
def maxExponent : Int := 971

/-- The quotient `num / den`, to the nearest integer, a half to the even one. -/
def divideToEven (num den : Nat) : Nat :=
  let quotient := num / den
  let twice := 2 * (num % den)
  if twice < den then quotient
  else if den < twice then quotient + 1
  else quotient + quotient % 2

/-- Numerator and denominator of `num / den / 2 ^ exponent`. -/
def scaleDown (num den : Nat) (exponent : Int) : Nat × Nat :=
  if 0 ≤ exponent then (num, den * Nat.pow 2 exponent.toNat)
  else (num * Nat.pow 2 (-exponent).toNat, den)

/-- The exponent at which `num / den` has a significand of 53 binary digits, or `minExponent`
when that is larger. -/
def exponentFor (num den : Nat) : Int :=
  let guess : Int := num.log2 - den.log2 - 52
  let (n, d) := scaleDown num den guess
  max minExponent (if n < d * Nat.pow 2 52 then guess - 1 else guess)

/-- The number of the format nearest to `± num / den`. -/
def ofRatio (negative : Bool) (num den : Nat) : Binary64 :=
  if num = 0 then finite negative 0 minExponent
  else
    let exponent := exponentFor num den
    let (n, d) := scaleDown num den exponent
    let significand := divideToEven n d
    let (significand, exponent) :=
      if significand = Nat.pow 2 53 then (Nat.pow 2 52, exponent + 1) else (significand, exponent)
    if maxExponent < exponent then infinite negative else finite negative significand exponent

def ofInt (i : Int) : Binary64 := ofRatio (i < 0) i.natAbs 1

/-- The exact value of a finite number. -/
def toRat? : Binary64 → Option Rat
  | finite negative significand exponent =>
    let magnitude : Rat := significand * (2 : Rat) ^ exponent
    some (if negative then -magnitude else magnitude)
  | _ => none

/-- The integer that a finite number is equal to. -/
def toInt? (x : Binary64) : Option Int :=
  x.toRat?.bind fun q => if q.den = 1 then some q.num else none

/-- The integer that a number is equal to, if it lies between the bounds of 64-bit words. The
bounds themselves are left out. -/
def toWord? (x : Binary64) : Option Int :=
  x.toInt?.filter fun i => -(Int.pow 2 63) < i ∧ i < Int.pow 2 63

def isFinite : Binary64 → Bool
  | finite .. => true
  | _ => false

/-- Zero, of either sign. -/
def isZero (x : Binary64) : Bool :=
  match x with
  | finite _ significand _ => significand == 0
  | _ => false

end Binary64

/-- A point of the extended number line, or no point at all for a NaN. -/
inductive Quantity where
  | negativeInfinity
  | exactly (value : Rat)
  | positiveInfinity
  | undefined (token : Nat)
  deriving DecidableEq

namespace Quantity

def ofInt (i : Int) : Quantity := exactly i

def ofBinary64 (x : Binary64) : Quantity :=
  match x with
  | .infinite negative => if negative then negativeInfinity else positiveInfinity
  | .nan token => undefined token
  | .finite negative significand exponent =>
    match (Binary64.finite negative significand exponent).toRat? with
    | some q => exactly q
    | none => undefined 0

/-- Order of the extended number line; an undefined quantity is neither below nor above any. -/
def below : Quantity → Quantity → Bool
  | undefined _, _ => false
  | _, undefined _ => false
  | negativeInfinity, negativeInfinity => false
  | negativeInfinity, _ => true
  | _, negativeInfinity => false
  | positiveInfinity, _ => false
  | _, positiveInfinity => true
  | exactly p, exactly q => p < q

end Quantity

end ShapeLint
