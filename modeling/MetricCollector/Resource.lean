import Mathlib.Data.Int.Notation
import Mathlib.Logic.Basic

/-!
# Quantities

`resource.Quantity` of the vendored `apimachinery`, in its `int64` form: a
value and a decimal scale.  The collector builds quantities from `uint64`
counters and reads them back with `Value` and `MilliValue`.

Scaling up multiplies in 64-bit arithmetic and `ScaledValue` ignores whether
that overflowed; scaling down rounds away from zero.
-/

namespace MetricCollector.Resource

/-- `resource.Format`; the zero value names no format. -/
inductive Format where
  | unset
  | decimalSI
  | binarySI
deriving DecidableEq, Repr

/-- `resource.Quantity`, which is `value * 10 ^ scale`. -/
structure Quantity where
  value : Int64 := 0
  scale : Int := 0
  format : Format := .unset
deriving DecidableEq, Repr

/-- `resource.NewScaledQuantity`. -/
def newScaledQuantity (value : Int64) (scale : Int) : Quantity where
  value := value
  scale := scale
  format := .decimalSI

/-- `int64MultiplyScale`, and its copies for the factors 10, 100 and 1000: the
product and whether it is exact. -/
def int64MultiplyScale (a b : Int64) : Int64 × Bool :=
  if a = 0 ∨ a = 1 then (a * b, true)
  else if a = Int64.minValue then (0, false)
  else (a * b, a * b / b = a)

/-- The loop of `positiveScaleInt64`, `n` factors of ten from `value` on. -/
def multiplyTens (value : Int64) : Nat → Int64
  | 0 => value
  | n + 1 =>
      match int64MultiplyScale value 10 with
      | (product, true) => multiplyTens product n
      | (_, false) => 0

/-- The value of `positiveScaleInt64`. -/
def positiveScaleInt64 (base : Int64) (scale : Nat) : Int64 :=
  match scale with
  | 0 => base
  | 1 => (int64MultiplyScale base 10).1
  | 2 => (int64MultiplyScale base 100).1
  | 3 => (int64MultiplyScale base 1000).1
  | 6 => (int64MultiplyScale base 1000000).1
  | 9 => (int64MultiplyScale base 1000000000).1
  | n => multiplyTens base n

/-- The loop of `negativeScaleInt64`, `n` divisions by ten from `value` on. -/
def divideTens (base value : Int64) (fraction : Bool) : Nat → Int64
  | 0 =>
      if fraction then (if 0 < base then value + 1 else value - 1) else value
  | n + 1 =>
      let fraction := fraction || value % 10 != 0
      if value / 10 = 0 then
        if fraction then (if 0 < base then 1 else -1) else 0
      else divideTens base (value / 10) fraction n

/-- The value of `negativeScaleInt64`. -/
def negativeScaleInt64 (base : Int64) (scale : Nat) : Int64 :=
  divideTens base base false scale

/-- `(*Quantity).ScaledValue`. -/
def Quantity.scaledValue (q : Quantity) (scale : Int) : Int64 :=
  if q.scale < scale then negativeScaleInt64 q.value (scale - q.scale).toNat
  else positiveScaleInt64 q.value (q.scale - scale).toNat

/-- `(*Quantity).Value`. -/
def Quantity.getValue (q : Quantity) : Int64 := q.scaledValue 0

/-- `(*Quantity).MilliValue`. -/
def Quantity.milliValue (q : Quantity) : Int64 := q.scaledValue (-3)

/-- Scaling down rounds away from zero, on either side of it. -/
example : (newScaledQuantity 1 (-9)).milliValue = 1 ∧ (newScaledQuantity (-15) (-1)).getValue = -2 ∧
    (newScaledQuantity 7 2).getValue = 700 := by decide

end MetricCollector.Resource
