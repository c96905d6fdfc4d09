/-!
# The shortest decimal of a double

Every finite double `x` is `m · 2^e` exactly, and the reals that round to it form an
interval around it: halfway to each neighbouring double, the ends included when `m` is even.
The decimal written for `x` is the one with the fewest significant digits inside that
interval, and of two such with the same number of digits, the one nearer to `x` (the even
one on a tie). On the grid of numbers with `k` significant digits, it suffices to test the
two grid points around `x`: if any grid point lies in the interval, one of these does.

* `Binary.ofFloat`: the sign, `m` and `e` of a double, read off its bits.
* `Digits`: a decimal `± digits · 10^exponent`.
* `shortest`: the shortest decimal of a finite double.
-/

namespace PlotLabels.Decimal

/-- A finite double as a sign and `mantissa · 2^exponent`. -/
structure Binary where
  negative : Bool
  mantissa : Nat
  exponent : Int
  /-- The double below is nearer than the double above: `x` is a power of two whose
  predecessor has a smaller exponent. -/
  narrowBelow : Bool

/-- The sign, mantissa and exponent of a double. Subnormal doubles have the exponent of the
smallest normal binade; normal ones carry the hidden bit. -/
def Binary.ofFloat (x : Float) : Binary :=
  let bits := x.toBits
  let biased := ((bits >>> 52) &&& 0x7FF).toNat
  let fraction := (bits &&& 0xFFFFFFFFFFFFF).toNat
  if biased = 0 then
    ⟨bits >>> 63 == 1, fraction, -1074, false⟩
  else
    ⟨bits >>> 63 == 1, fraction + 0x10000000000000, (biased : Int) - 1075, fraction = 0 ∧ biased > 1⟩

/-- A decimal `± digits · 10^exponent`. -/
structure Digits where
  negative : Bool
  digits : Nat
  exponent : Int
  deriving DecidableEq, Repr

/-- How `a · 10^g` compares with `b · 2^p`, in exact arithmetic. -/
def compareScaled (a : Nat) (g : Int) (b : Nat) (p : Int) : Ordering :=
  compare (a * Nat.pow 10 g.toNat * Nat.pow 2 (-p).toNat)
    (b * Nat.pow 2 p.toNat * Nat.pow 10 (-g).toNat)

/-- The floor of `m · 2^e / 10^g`. -/
def floorScaled (m : Nat) (e g : Int) : Nat :=
  (m * Nat.pow 2 e.toNat * Nat.pow 10 (-g).toNat) / (Nat.pow 2 (-e).toNat * Nat.pow 10 g.toNat)

/-- The interval of reals that round to `m · 2^e`, in units of `2^(e-2)`: its ends, and
whether they belong to it. -/
structure Interval where
  low : Nat
  high : Nat
  closed : Bool

/-- The rounding interval of a positive double. -/
def Binary.interval (b : Binary) : Interval :=
  ⟨if b.narrowBelow then 4 * b.mantissa - 1 else 4 * b.mantissa - 2, 4 * b.mantissa + 2,
    b.mantissa % 2 == 0⟩

/-- Whether `n · 10^g` lies in the rounding interval of `b`. -/
def Binary.admits (b : Binary) (n : Nat) (g : Int) : Bool :=
  let i := b.interval
  let lo := compareScaled n g i.low (b.exponent - 2)
  let hi := compareScaled n g i.high (b.exponent - 2)
  if i.closed then lo != .lt && hi != .gt else lo == .gt && hi == .lt

/-- The largest `E` with `10^E ≤ m · 2^e`, for `m > 0`: the estimate `⌊k · log₁₀ 2⌋` from the
binary magnitude `k`, raised by one when the next power of ten still fits. -/
def decimalMagnitude (m : Nat) (e : Int) : Int :=
  let k : Int := (m.log2 : Int) + e
  let guess := (k * 78913) / 262144
  if compareScaled 1 (guess + 1) m e != .gt then guess + 1 else guess

/-- The decimal with `k` significant digits nearest to `b` among those in its rounding
interval: the two grid points around `b`, the nearer first, the even one on a tie. -/
def Binary.withDigits (b : Binary) (k : Nat) : Option (Nat × Int) :=
  let g := decimalMagnitude b.mantissa b.exponent - k + 1
  let below := floorScaled b.mantissa b.exponent g
  let above := below + 1
  -- where the midpoint of the two grid points lies against the value
  let mid := compareScaled (2 * below + 1) g b.mantissa (b.exponent + 1)
  let order :=
    if mid == .gt || (mid == .eq && below % 2 == 0) then [below, above] else [above, below]
  (order.find? fun n => b.admits n g).map fun n => (n, g)

/-- Trailing zeros moved into the exponent. -/
def normalise (n : Nat) (g : Int) : Nat → Nat × Int
  | 0 => (n, g)
  | fuel + 1 => if n ≠ 0 ∧ n % 10 = 0 then normalise (n / 10) (g + 1) fuel else (n, g)

/-- The shortest decimal of a finite double: seventeen significant digits always suffice. -/
def shortest (x : Float) : Digits :=
  let b := Binary.ofFloat x
  if b.mantissa = 0 then ⟨b.negative, 0, 0⟩
  else
    match (List.range 17).findSome? (fun k => b.withDigits (k + 1)) with
    | some (n, g) =>
      let (n, g) := normalise n g 20
      ⟨b.negative, n, g⟩
    | none => ⟨b.negative, b.mantissa, 0⟩

end PlotLabels.Decimal
