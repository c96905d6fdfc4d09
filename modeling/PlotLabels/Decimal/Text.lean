import PlotLabels.Decimal.Shortest
/-!
# Writing a decimal

A decimal `digits · 10^exponent` is written either positionally or in scientific form,
depending on where its decimal point falls. A `Layout` holds the choices a format makes:
the range of point positions written positionally, whether an integral value keeps a `.0`,
and how the exponent of the scientific form is signed and padded.

* `Layout`: the choices.
* `Digits.render`: the text of a decimal under a layout.
-/

namespace PlotLabels.Decimal

/-- The choices of a decimal format. The point position of a decimal is the number of its
digits that stand before the point; it is `length + exponent`. -/
structure Layout where
  /-- The smallest point position written positionally (`-4` writes `0.0000d`). -/
  leastPoint : Int
  /-- The largest point position written positionally. -/
  greatestPoint : Int
  /-- An integral value written positionally ends in `.0`. -/
  pointZero : Bool
  /-- A non-negative exponent is written with `+`. -/
  plusSign : Bool
  /-- The exponent has at least this many digits. -/
  exponentWidth : Nat

/-- The decimal numeral of `n`, at least `width` digits wide. -/
def padded (n : Nat) (width : Nat) : String :=
  let s := (Nat.toDigits 10 n)
  String.ofList (List.replicate (width - s.length) '0' ++ s)

/-- The text of a decimal under a layout. Zero is `0.0` (or `0`), with its sign. -/
def Digits.render (layout : Layout) (d : Digits) : String :=
  let sign := if d.negative then "-" else ""
  let ds := Nat.toDigits 10 d.digits
  let len : Int := ds.length
  let point := len + d.exponent
  if d.digits = 0 then
    sign ++ (if layout.pointZero then "0.0" else "0")
  else if layout.leastPoint ≤ point ∧ point ≤ layout.greatestPoint then
    if point ≤ 0 then
      sign ++ "0." ++ String.ofList (List.replicate (-point).toNat '0' ++ ds)
    else if point < len then
      sign ++ String.ofList (ds.take point.toNat) ++ "." ++ String.ofList (ds.drop point.toNat)
    else
      sign ++ String.ofList (ds ++ List.replicate (point - len).toNat '0') ++
        (if layout.pointZero then ".0" else "")
  else
    let e := point - 1
    let mantissa :=
      match ds with
      | [c] => c.toString
      | c :: rest => c.toString ++ "." ++ String.ofList rest
      | [] => "0"
    let expSign := if e < 0 then "-" else if layout.plusSign then "+" else ""
    sign ++ mantissa ++ "e" ++ expSign ++ padded e.natAbs layout.exponentWidth

end PlotLabels.Decimal
