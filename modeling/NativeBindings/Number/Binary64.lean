/-
NativeBindings/Number/Binary64.lean

Magnitudes of binary floating-point numbers of 64 bits, as exact values

    mantissa * 2 ^ exponent        with mantissa < 2 ^ 53 and -1074 ≤ exponent ≤ 971,

and the two operations on them that reading a decimal needs.  Every result is the representable
value nearest to the exact one, of two equally near ones that with an even mantissa; a result of
`2 ^ 1024` or more has no value.
-/

namespace NativeBindings.Number

/-- A finite magnitude. -/
structure Binary64 where
  mantissa : Nat
  exponent : Int
deriving DecidableEq

namespace Binary64

/-- The exponent of the finest grid, on which the values nearest to zero lie. -/
def leastExponent : Int := -1074

/-- The exponent of the coarsest grid. -/
def greatestExponent : Int := 971

/-- Zero. -/
def zero : Binary64 := { mantissa := 0, exponent := leastExponent }

/-- The integer nearest to a quotient, of two equally near ones the even one. -/
def roundToEven (num den : Nat) : Nat :=
  let quotient := num / den
  let twice := 2 * (num % den)
  if twice < den then quotient
  else if den < twice then quotient + 1
  else quotient + quotient % 2

/-- A quotient divided by `2 ^ exponent`, again as a quotient. -/
def scaled (num den : Nat) (exponent : Int) : Nat × Nat :=
  if 0 ≤ exponent then (num, den * Nat.pow 2 exponent.toNat)
  else (num * Nat.pow 2 (-exponent).toNat, den)

/-- The exponent of the grid on which a positive quotient has a mantissa of 53 bits, or the finest
grid where that is coarser. -/
def gridExponent (num den : Nat) : Int :=
  let guess : Int := (Nat.log2 num : Int) - Nat.log2 den
  let (n, d) := scaled num den guess
  let top := if d ≤ n then guess else guess - 1
  max (top - 52) leastExponent

/-- The representable value nearest to a quotient. -/
def nearest (num den : Nat) : Option Binary64 :=
  if num = 0 then some zero
  else
    let exponent := gridExponent num den
    let (n, d) := scaled num den exponent
    let mantissa := roundToEven n d
    let value : Binary64 :=
      if mantissa = Nat.pow 2 53 then { mantissa := Nat.pow 2 52, exponent := exponent + 1 }
      else { mantissa, exponent }
    if value.exponent ≤ greatestExponent then some value else none

/-- A value as a quotient of natural numbers. -/
def toQuotient (x : Binary64) : Nat × Nat :=
  if 0 ≤ x.exponent then (x.mantissa * Nat.pow 2 x.exponent.toNat, 1)
  else (x.mantissa, Nat.pow 2 (-x.exponent).toNat)

/-- The value nearest to a natural number. -/
def ofNat? (n : Nat) : Option Binary64 := nearest n 1

/-- The value nearest to a product. -/
def mul? (x y : Binary64) : Option Binary64 :=
  let (a, b) := x.toQuotient
  let (c, d) := y.toQuotient
  nearest (a * c) (b * d)

/-- The value nearest to a quotient of values. -/
def div? (x y : Binary64) : Option Binary64 :=
  let (a, b) := x.toQuotient
  let (c, d) := y.toQuotient
  nearest (a * d) (b * c)

end Binary64

end NativeBindings.Number
