import TerminalDock.Decimal.Shortest
import TerminalDock.Failure

/-! Sizes in pixels: whole numbers, or numbers with a fraction where a toolkit or a font gives such. -/

namespace TerminalDock.Decimal

inductive Quantity
  | whole (value : Int)
  | real (value : Float)
  deriving Inhabited

namespace Quantity

def toFloat : Quantity → Float
  | .whole value => Float.ofInt value
  | .real value => value

/-- What is left after taking a whole number away. -/
def minus (size : Quantity) (taken : Int) : Quantity :=
  match size with
  | .whole value => .whole (value - taken)
  | .real value => .real (value - Float.ofInt taken)

def isPositive : Quantity → Bool
  | .whole value => 0 < value
  | .real value => 0 < value

def isZero : Quantity → Bool
  | .whole value => value == 0
  | .real value => value == 0

/-- The quotient of two natural numbers rounded to fifty-three significant bits, ties to even, and then
down to a whole number. -/
def roundedQuotient (numerator denominator : Nat) : Nat :=
  let estimate : Int := (numerator.log2 : Int) - denominator.log2 - 53
  let rounded (shift : Int) : Nat :=
    let numerator := numerator * Nat.pow 2 (-shift).toNat
    let denominator := denominator * Nat.pow 2 shift.toNat
    let below := numerator / denominator
    let twice := 2 * (numerator % denominator)
    if denominator < twice || (twice == denominator && below % 2 == 1) then below + 1 else below
  let shift := if numerator * Nat.pow 2 (-estimate).toNat / (denominator * Nat.pow 2 estimate.toNat) < Nat.pow 2 53
    then estimate else estimate + 1
  rounded shift * Nat.pow 2 shift.toNat / Nat.pow 2 (-shift).toNat

/-- The quotient of two whole numbers rounded down. Up to fifty-two bits division in double precision
does not cross a whole number; beyond that the quotient is rounded first, as that division does. -/
def floorQuotient (numerator denominator : Int) : Int :=
  if numerator.natAbs < Nat.pow 2 52 then numerator.fdiv denominator
  else
    let size := roundedQuotient numerator.natAbs denominator.natAbs
    if (numerator < 0) == (denominator < 0) then size else -(size : Int)

/-- A number rounded down; what is not finite has no such number. -/
def floor (x : Float) : Except Failure Int :=
  if x.isNaN then .error (.fault .value "cannot convert float NaN to integer")
  else
    match truncate? x.floor with
    | some value => .ok value
    | none => .error (.fault .overflow "cannot convert float infinity to integer")

/-- How many whole times one size goes into another. -/
def floorDiv (size unit : Quantity) : Except Failure Int :=
  match size, unit with
  | .whole size, .whole unit =>
    if unit == 0 then .error (.fault .zeroDivision "division by zero") else .ok (floorQuotient size unit)
  | size, unit =>
    if unit.isZero then .error (.fault .zeroDivision "float division by zero")
    else floor (size.toFloat / unit.toFloat)

end Quantity

end TerminalDock.Decimal
