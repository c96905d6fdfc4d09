import PlotLabels.Decimal.Text
/-!
# JSON numbers

A JSON number is held as one of three kinds: a non-negative integer that fits in 64 bits, a
negative integer that fits in 64 signed bits, or a double. The kind comes from how the number
is written, not from its value alone: a literal with a point or an exponent is a double, and
so is an integer literal outside both integer ranges, and `-0`.

A double is read from its literal in one rounding step after another: the significand keeps
the literal's digits while they fit in 64 bits (further digits before the point raise the
exponent by one each, further digits after it are dropped), it is rounded to a double, and
the double is multiplied or divided by the double nearest to the power of ten. Exponents
beyond 308 divide by `1e308` first, and a product that overflows is out of range.

* `Number`: the three kinds.
* `Literal`: the parts of a number literal, and `Literal.toNumber` its value.
* `Number.text`: the text of a number; doubles are written shortest, positionally between
  `1e-5` and `1e16` with `.0` on integral values, otherwise as `d.ddde+N` or `d.ddde-N`.
-/

namespace PlotLabels.Json

/-- A JSON number. -/
inductive Number where
  /-- A non-negative integer below `2^64`. -/
  | nat (n : UInt64)
  /-- A negative integer not below `-2^63`. -/
  | neg (n : Int64)
  /-- A double. -/
  | float (x : Float)

/-! ## 1. Reading a literal -/

/-- The parts of a number literal: its sign, the digits before the point, the digits after
it if it has a point, and the exponent's sign and digits if it has an exponent. -/
structure Literal where
  negative : Bool
  whole : List Nat
  fraction : Option (List Nat) := none
  exponent : Option (Bool × List Nat) := none

/-- The largest 64-bit unsigned integer. -/
def u64Max : Nat := UInt64.size - 1

/-- The largest 32-bit signed integer, `2^31 - 1`. -/
def i32Max : Int := 2147483647

/-- The least 32-bit signed integer, `-2^31`. -/
def i32Min : Int := -2147483648

/-- Digits appended to `sig` while the result stays within 64 bits: the significand, the
number of digits taken, and the number left over. -/
def takeDigits (sig : Nat) : List Nat → Nat × Nat × Nat
  | [] => (sig, 0, 0)
  | d :: ds =>
    if sig * 10 + d ≤ u64Max then
      let (s, t, r) := takeDigits (sig * 10 + d) ds
      (s, t + 1, r)
    else (sig, 0, ds.length + 1)

/-- The exponent digits as a 32-bit value, or `none` once a digit would overflow it. -/
def exponentValue (ds : List Nat) : Option Int :=
  ds.foldl (fun (acc : Option Int) (d : Nat) => acc.bind fun e =>
    if e * 10 + d ≤ i32Max then some (e * 10 + d) else none) (some 0)

/-- A sum clamped to the 32-bit signed range. -/
def saturate (e : Int) : Int :=
  max i32Min (min i32Max e)

/-- The double nearest to `10^k`. -/
def powerOfTen (k : Nat) : Float :=
  Float.ofScientific 1 false k

/-- Why a literal has no value. -/
inductive NumberError where
  /-- The value is too large for a double. -/
  | outOfRange
  deriving DecidableEq, Repr

/-- `sig · 10^exp` as a double: the significand rounded to a double, then scaled by the
nearest double to the power of ten; exponents below `-308` divide by `1e308` first, for at
most `fuel` steps. -/
def scale (f : Float) (exp : Int) : Nat → Except NumberError Float
  | 0 => .ok f
  | fuel + 1 =>
    if exp.natAbs ≤ 308 then
      if exp ≥ 0 then
        let g := f * powerOfTen exp.toNat
        if g.isInf then .error .outOfRange else .ok g
      else .ok (f / powerOfTen exp.natAbs)
    else if f == 0 then .ok f
    else if exp ≥ 0 then .error .outOfRange
    else scale (f / powerOfTen 308) (exp + 308) fuel

/-- The double `± sig · 10^exp`. -/
def fromParts (negative : Bool) (sig : Nat) (exp : Int) : Except NumberError Float := do
  let f ← scale sig.toUInt64.toFloat exp (exp.natAbs / 308 + 2)
  pure (if negative then -f else f)

/-- The value of a literal. -/
def Literal.toNumber (l : Literal) : Except NumberError Number :=
  let (sig, _, dropped) := takeDigits 0 l.whole
  match l.fraction, l.exponent with
  | none, none =>
    if dropped > 0 then .float <$> fromParts l.negative sig dropped
    else if !l.negative then .ok (.nat sig.toUInt64)
    else if sig = 0 then .ok (.float (-0.0))
    else if sig ≤ Int64.size / 2 then .ok (.neg (-(sig : Int)).toInt64)
    else .ok (.float (-sig.toUInt64.toFloat))
  | fraction, exponent =>
    let (sig, taken, _) := takeDigits sig (fraction.getD [])
    let start : Int := (dropped : Int) - taken
    match exponent with
    | none => .float <$> fromParts l.negative sig start
    | some (expNegative, ds) =>
      match exponentValue ds with
      | some e =>
        .float <$> fromParts l.negative sig (saturate (if expNegative then start - e else start + e))
      | none =>
        if sig ≠ 0 ∧ !expNegative then .error .outOfRange
        else .ok (.float (if l.negative then -0.0 else 0.0))

/-! ## 2. Writing a number -/

/-- Doubles are written with the fewest digits that read back; positionally when the point
falls between four places before the first digit and sixteen after it, with `.0` on
integral values; otherwise as one digit, a point and the rest, and an exponent that always
has its sign and no leading zeros (`1e-7`, `1.5e+20`). -/
def floatLayout : Decimal.Layout :=
  ⟨-4, 16, true, true, 1⟩

/-- The text of a double. -/
def floatText (x : Float) : String :=
  (Decimal.shortest x).render floatLayout

/-- The text of a number. -/
def Number.text : Number → String
  | nat n => toString n.toNat
  | neg n => toString n.toInt
  | float x => floatText x

end PlotLabels.Json
