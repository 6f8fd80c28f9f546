/-! The shortest decimal text of a binary floating-point number: of the decimal numbers that read back as
the same number, one with the fewest digits, and of those the nearest. All arithmetic is exact. -/

namespace TerminalDock.Decimal

/-- A positive finite number as `mantissa * 2 ^ exponent`, and whether its neighbour below is only half
as far away as the one above. -/
structure Binary where
  mantissa : Nat
  exponent : Int
  lowerGapHalved : Bool

/-- The value of the sixty-four bits of a positive finite number. -/
def Binary.ofBits (bits : UInt64) : Binary :=
  let fraction : Nat := bits.toNat % Nat.pow 2 52
  let biased : Nat := bits.toNat / Nat.pow 2 52 % Nat.pow 2 11
  if biased == 0 then ⟨fraction, -1074, false⟩
  else ⟨fraction + Nat.pow 2 52, (biased : Int) - 1075, fraction == 0 && 1 < biased⟩

/-- A decimal number `digits * 10 ^ exponent`. -/
structure Scaled where
  digits : Nat
  exponent : Int
  deriving Repr, DecidableEq

/-- Numerator and denominator of `mantissa * 2 ^ two * 10 ^ ten`. -/
def ratio (mantissa : Nat) (two ten : Int) : Nat × Nat :=
  (mantissa * Nat.pow 2 two.toNat * Nat.pow 10 ten.toNat, Nat.pow 2 (-two).toNat * Nat.pow 10 (-ten).toNat)

/-- Whether the grid point `point * 10 ^ exponent` reads back as the given number: it lies between the
midpoints to the two neighbours, ends included if the mantissa is even. -/
def Binary.readsBack (number : Binary) (point : Nat) (exponent : Int) : Bool :=
  -- Everything is counted in quarters of the gap above the number.
  let (scaled, unit) := ratio point (-(number.exponent - 2)) exponent
  let upper := (4 * number.mantissa + 2) * unit
  let lower := (4 * number.mantissa - (if number.lowerGapHalved then 1 else 2)) * unit
  if number.mantissa % 2 == 0 then lower ≤ scaled && scaled ≤ upper
  else lower < scaled && scaled < upper

/-- The grid points of spacing `10 ^ exponent` next to the number, and the nearest of those that read
back as it; a tie goes to the even one. -/
def Binary.onGrid? (number : Binary) (exponent : Int) : Option Nat :=
  let (numerator, denominator) := ratio number.mantissa number.exponent (-exponent)
  let below := numerator / denominator
  let remainder := numerator % denominator
  let belowFits := 0 < below && number.readsBack below exponent
  let aboveFits := number.readsBack (below + 1) exponent
  let takeBelow := 2 * remainder < denominator || (2 * remainder == denominator && below % 2 == 0)
  if belowFits && (takeBelow || !aboveFits) then some below
  else if aboveFits then some (below + 1)
  else none

/-- The decimal exponent of the leading digit, up to one too large. -/
def Binary.magnitude (number : Binary) : Int :=
  (((number.mantissa.log2 : Int) + number.exponent) * 30103) / 100000 + 1

/-- Tries ever finer grids until one of them has a point that reads back. -/
def Binary.search (number : Binary) (exponent : Int) : Nat → Scaled
  | 0 => ⟨(number.onGrid? exponent).getD 0, exponent⟩
  | finer + 1 =>
    match number.onGrid? exponent with
    | some digits => ⟨digits, exponent⟩
    | none => number.search (exponent - 1) finer

def Scaled.trim (value : Scaled) : Nat → Scaled
  | 0 => value
  | steps + 1 =>
    if value.digits != 0 && value.digits % 10 == 0 then
      (Scaled.mk (value.digits / 10) (value.exponent + 1)).trim steps
    else value

/-- The shortest decimal number that reads back as the given positive finite number. Nineteen grids
suffice: with seventeen digits there is always a point that reads back. -/
def shortest (number : Binary) : Scaled :=
  (number.search number.magnitude 19).trim 20

def digitsOf (value : Nat) : String := toString value

/-- How numbers with a fraction are written: positional between ten to the minus fourth and ten to the
sixteenth, with `.0` on whole ones; otherwise with an exponent of at least two digits. -/
def Scaled.text (value : Scaled) : String :=
  let digits := (digitsOf value.digits).toList
  let count : Int := digits.length
  let point := count + value.exponent
  if -3 ≤ point && point ≤ 16 then
    if point ≤ 0 then
      "0." ++ String.ofList (List.replicate (-point).toNat '0' ++ digits)
    else if point < count then
      String.ofList (digits.take point.toNat) ++ "." ++ String.ofList (digits.drop point.toNat)
    else String.ofList (digits ++ List.replicate (point - count).toNat '0') ++ ".0"
  else
    let lead := digits.take 1
    let rest := digits.drop 1
    let exponent := point - 1
    let mark := if exponent < 0 then "e-" else "e+"
    let size := digitsOf exponent.natAbs
    String.ofList lead ++ (if rest.isEmpty then "" else "." ++ String.ofList rest) ++ mark
      ++ (if size.length < 2 then "0" ++ size else size)

/-- The shortest text that reads back as the number, with the names that the infinities and the missing
number are given. -/
def floatText (notANumber infinite : String) (x : Float) : String :=
  let bits := x.toBits
  let sign := if bits.toNat / Nat.pow 2 63 == 1 then "-" else ""
  let magnitude : UInt64 := UInt64.ofNat (bits.toNat % Nat.pow 2 63)
  if x.isNaN then notANumber
  else if x.isInf then sign ++ infinite
  else if magnitude == 0 then sign ++ "0.0"
  else sign ++ (shortest (Binary.ofBits magnitude)).text

/-- Reads `digits * 10 ^ exponent`, rounded to the nearest number. Exponents past the range give zero
or infinity at once. -/
def floatOfDecimal (negative : Bool) (digits : Nat) (exponent : Int) : Float :=
  let width : Int := (digitsOf digits).length
  let magnitude : Float :=
    if digits == 0 || exponent + width < -400 then 0.0
    else if 400 < exponent + width then 1.0 / 0.0
    else if exponent < 0 then Float.ofScientific digits true exponent.natAbs
    else Float.ofScientific digits false exponent.toNat
  if negative then -magnitude else magnitude

/-- The whole number nearest to zero that bounds the number from that side; none for what is not finite. -/
def truncate? (x : Float) : Option Int :=
  if x.isNaN || x.isInf then none
  else
    let bits := x.toBits
    let number := Binary.ofBits (UInt64.ofNat (bits.toNat % Nat.pow 2 63))
    let whole := number.mantissa * Nat.pow 2 number.exponent.toNat / Nat.pow 2 (-number.exponent).toNat
    some (if bits.toNat / Nat.pow 2 63 == 1 then -(whole : Int) else whole)

/-- Whether a finite number has no fraction. -/
def isWhole (x : Float) : Bool :=
  let number := Binary.ofBits (UInt64.ofNat (x.toBits.toNat % Nat.pow 2 63))
  number.mantissa * Nat.pow 2 number.exponent.toNat % Nat.pow 2 (-number.exponent).toNat == 0

end TerminalDock.Decimal
