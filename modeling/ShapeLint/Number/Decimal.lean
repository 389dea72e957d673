import ShapeLint.Number.Binary64

/-!
Decimal text of binary64 numbers. Reading rounds a literal to the nearest number; writing takes
the fewest significant digits that read back, of those the nearest to the number, and of two
equally near ones the even one.
-/
namespace ShapeLint.Binary64

/-- Powers of ten from which on every number is infinite, and up to which every number is less than
half of the least positive one. -/
def overflowPower : Int := 309
def underflowPower : Int := -324

/-- `± digits * 10 ^ exponent`, to the nearest number. -/
def ofDecimal (negative : Bool) (digits : Nat) (exponent : Int) : Binary64 :=
  let leading : Int := exponent + (Nat.toDigits 10 digits).length
  if digits = 0 ∨ leading ≤ underflowPower then ofRatio negative 0 1
  else if overflowPower < leading then infinite negative
  else if 0 ≤ exponent then ofRatio negative (digits * Nat.pow 10 exponent.toNat) 1
  else ofRatio negative digits (Nat.pow 10 (-exponent).toNat)

/-- Significand and exponent of a decimal number. -/
structure Decimal where
  digits : Nat
  exponent : Int
  deriving DecidableEq, Repr

/-- Counts the steps by which `num / den` must be multiplied by ten to reach one. -/
def leadingZeros : Nat → Nat → Nat → Nat
  | 0, _, _ => 0
  | fuel + 1, num, den => if den ≤ num then 0 else leadingZeros fuel (num * 10) den + 1

/-- The power of ten just above `num / den`, for a positive quotient. Two quotients of the
format differ by at most the powers of ten between `10 ^ (-324)` and `10 ^ 309`. -/
def magnitude (num den : Nat) : Int :=
  if den ≤ num then (Nat.toDigits 10 (num / den)).length else 1 - leadingZeros 400 num den

/-- The decimal number of `count` digits next to `num / den` that reads back as `x`. If both
neighbours do, it is the nearer one, and between two equally near ones the even one. -/
def neighbour? (x : Binary64) (num den : Nat) (count : Nat) : Option Decimal :=
  let exponent := magnitude num den - count
  let (n, d) :=
    if 0 ≤ exponent then (num, den * Nat.pow 10 exponent.toNat)
    else (num * Nat.pow 10 (-exponent).toNat, den)
  let lower := n / d
  let isLowerFirst := 2 * (n % d) < d ∨ (2 * (n % d) = d ∧ lower % 2 = 0)
  let order := if isLowerFirst then [lower, lower + 1] else [lower + 1, lower]
  (order.find? fun digits => ofDecimal false digits exponent == x).map (⟨·, exponent⟩)

/-- Fewest digits that read back as a positive finite number. Seventeen always suffice. -/
def shortest (significand : Nat) (exponent : Int) : Decimal :=
  let x := finite false significand exponent
  let (num, den) :=
    if 0 ≤ exponent then (significand * Nat.pow 2 exponent.toNat, 1)
    else (significand, Nat.pow 2 (-exponent).toNat)
  (((List.range 17).map (· + 1)).findSome? (neighbour? x num den)).getD ⟨significand, exponent⟩

/-- Where the text of a number leaves positional notation: the least and the first too large
power of ten of the leading digit. -/
def positionalFrom : Int := -4
def positionalBelow : Int := 16

/-- Sign and at least two digits. -/
def exponentText (e : Int) : String :=
  let digits := toString e.natAbs
  (if e < 0 then "-" else "+") ++ (if digits.length < 2 then "0" ++ digits else digits)

/-- Text of a decimal number: positional with at least one digit on both sides of the point, or
one leading digit, the other digits after a point if any, and the exponent. -/
def Decimal.text (x : Decimal) : String :=
  let written := (Nat.toDigits 10 x.digits)
  let digits := (written.reverse.dropWhile (· == '0')).reverse
  let leading : Int := x.exponent + written.length - 1
  String.ofList <|
    if leading < positionalFrom ∨ positionalBelow ≤ leading then
      digits.take 1 ++ (if digits.length ≤ 1 then [] else '.' :: digits.drop 1)
        ++ 'e' :: (exponentText leading).toList
    else if leading < 0 then
      '0' :: '.' :: List.replicate (-leading - 1).toNat '0' ++ digits
    else
      let whole := leading.toNat + 1
      let fraction := digits.drop whole
      digits.take whole ++ List.replicate (whole - digits.length) '0'
        ++ '.' :: (if fraction.isEmpty then ['0'] else fraction)

/-- Text of a number, as messages show it. -/
def text : Binary64 → String
  | nan _ => "nan"
  | infinite negative => if negative then "-inf" else "inf"
  | finite negative significand exponent =>
    (if negative then "-" else "") ++
      if significand = 0 then "0.0" else (shortest significand exponent).text

/-- Value of a text of ASCII digits. -/
def digitsValue (cs : List Char) : Nat := cs.foldl (fun n c => 10 * n + (c.toNat - 48)) 0

/-- Reads `digits[.digits][e[±]digits]`, with digits on at least one side of the point. -/
def ofLiteral? (negative : Bool) (cs : List Char) : Option Binary64 :=
  let whole := cs.takeWhile Char.isDigit
  let rest := cs.dropWhile Char.isDigit
  let (fraction, rest) :=
    match rest with
    | '.' :: rest => (rest.takeWhile Char.isDigit, rest.dropWhile Char.isDigit)
    | _ => ([], rest)
  if whole.isEmpty && fraction.isEmpty then none
  else
    let value (exponent : Int) :=
      some (ofDecimal negative (digitsValue (whole ++ fraction)) (exponent - fraction.length))
    match rest with
    | [] => value 0
    | e :: rest =>
      if e = 'e' ∨ e = 'E' then
        let (sign, digits) : Int × List Char :=
          match rest with
          | '-' :: digits => (-1, digits)
          | '+' :: digits => (1, digits)
          | digits => (1, digits)
        if digits.isEmpty || !digits.all Char.isDigit then none
        else value (sign * digitsValue digits)
      else none

/-- Reads a number literal, `inf`, `infinity` or `nan`, in any case and with an optional sign.
A NaN that is read takes the given token. -/
def ofText? (token : Nat) (s : String) : Option Binary64 :=
  let (negative, body) :=
    match s.toList with
    | '-' :: cs => (true, cs)
    | '+' :: cs => (false, cs)
    | cs => (false, cs)
  let lower := String.ofList (body.map Char.toLower)
  if lower = "inf" ∨ lower = "infinity" then some (infinite negative)
  else if lower = "nan" then some (nan token)
  else ofLiteral? negative body

end ShapeLint.Binary64
