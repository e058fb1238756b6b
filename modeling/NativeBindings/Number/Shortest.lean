/-
NativeBindings/Number/Shortest.lean

The fewest decimal digits that read back as a given binary magnitude.  The decimals that read back
form an interval around the magnitude; the coarsest decimal grid with a point in it is taken, and of
its points the one nearest to the magnitude, of two equally near ones the even one.
-/
import NativeBindings.Number.Binary64

namespace NativeBindings.Number

/-- A decimal: `digits * 10 ^ exponent`. -/
structure Decimal where
  digits : Nat
  exponent : Int
deriving DecidableEq

/-- A quotient divided by `10 ^ exponent`, again as a quotient. -/
def decimalScaled (num den : Nat) (exponent : Int) : Nat × Nat :=
  if 0 ≤ exponent then (num, den * Nat.pow 10 exponent.toNat)
  else (num * Nat.pow 10 (-exponent).toNat, den)

/-- The number of decimal digits of a natural number; zero has one. -/
def decimalLength (n : Nat) : Nat := (Nat.toDigits 10 n).length

/-- The place of the leading decimal digit of a positive quotient, counted from the ones. -/
def leadingPlace (num den : Nat) : Int :=
  if den ≤ num then (decimalLength (num / den) : Int) - 1
  else -(decimalLength ((den - 1) / num) : Int)

/-- The decimals that read back as a magnitude, scaled by four and by `2 ^ exponent`: the half steps
to both neighbours.  Below a power of two the step down is half as long. -/
def Binary64.readBackBounds (x : Binary64) : Nat × Nat :=
  let narrow := x.mantissa = Nat.pow 2 52 ∧ leastExponent < x.exponent
  (if narrow then 4 * x.mantissa - 1 else 4 * x.mantissa - 2, 4 * x.mantissa + 2)

/-- Whether a decimal reads back as a magnitude.  The ends of the interval do exactly if the
mantissa is even. -/
def Binary64.readsBack (x : Binary64) (decimal : Decimal) : Bool :=
  let (low, high) := x.readBackBounds
  -- `decimal` in units of a quarter of `2 ^ x.exponent`
  let (n, d) := decimalScaled decimal.digits 1 (-decimal.exponent)
  let (n, d) := Binary64.scaled (4 * n) d x.exponent
  if x.mantissa % 2 = 0 then low * d ≤ n && n ≤ high * d
  else low * d < n && n < high * d

/-- The two neighbours of a quotient on the grid of `10 ^ exponent`, the nearer one first, of two
equally near ones the even one. -/
def gridNeighbours (num den : Nat) (exponent : Int) : Decimal × Decimal :=
  let (n, d) := decimalScaled num den exponent
  let below : Decimal := { digits := n / d, exponent }
  let above : Decimal := { digits := n / d + 1, exponent }
  if Binary64.roundToEven n d = below.digits then (below, above) else (above, below)

/-- The nearest point of the first grid, of those with `places`, `places + 1`, … digits, that reads
back; seventeen digits always do. -/
def shortestFrom (x : Binary64) : (grids : Nat) → (exponent : Int) → Decimal
  | 0, exponent => (gridNeighbours x.toQuotient.1 x.toQuotient.2 exponent).1
  | grids + 1, exponent =>
      let (near, far) := gridNeighbours x.toQuotient.1 x.toQuotient.2 exponent
      if x.readsBack near then near
      else if x.readsBack far then far
      else shortestFrom x grids (exponent - 1)

/-- The shortest decimal that reads back as a positive magnitude. -/
def Binary64.shortest (x : Binary64) : Decimal :=
  shortestFrom x 16 (leadingPlace x.toQuotient.1 x.toQuotient.2)

/-- How a magnitude is written. -/
structure DecimalFormat where
  /-- The least place of the leading digit that is still written positionally. -/
  leastPlace : Int
  /-- The greatest place of the leading digit that is still written positionally. -/
  greatestPlace : Int

/-- Digits with the point after the first `count` of them, and at least one digit on each side. -/
def pointed (digits : List Char) (count : Int) : String :=
  if count ≤ 0 then
    "0." ++ String.ofList (List.replicate (-count).toNat '0' ++ digits)
  else
    let whole := digits.take count.toNat
    let rest := digits.drop count.toNat
    let zeros := List.replicate (count.toNat - whole.length) '0'
    String.ofList (whole ++ zeros) ++ "." ++ (if rest = [] then "0" else String.ofList rest)

/-- Digits in exponent form: a single digit stands without a point, and the exponent has a sign and
no leading zeros. -/
def scientific (digits : List Char) (place : Int) : String :=
  let lead := String.ofList (digits.take 1)
  let rest := digits.drop 1
  lead ++ (if rest = [] then "" else "." ++ String.ofList rest) ++ "e" ++
    (if place < 0 then "-" else "+") ++ toString place.natAbs

/-- The shortest text of a magnitude. -/
def DecimalFormat.write (format : DecimalFormat) (x : Binary64) : String :=
  if x.mantissa = 0 then "0.0"
  else
    let decimal := x.shortest
    let digits := Nat.toDigits 10 decimal.digits
    let place : Int := decimal.exponent + digits.length - 1
    let significant := (digits.reverse.dropWhile (· == '0')).reverse
    if format.leastPlace ≤ place ∧ place ≤ format.greatestPlace then
      pointed significant (place + 1)
    else scientific significant place

end NativeBindings.Number
