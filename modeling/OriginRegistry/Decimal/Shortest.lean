import OriginRegistry.Decimal.Binary64

set_option autoImplicit false

namespace OriginRegistry.Decimal

def decimalLength (n : Nat) : Nat := (Nat.toDigits 10 n).length

def floorLog10 (num den : Nat) : Int :=
  if den ≤ num then (decimalLength (num / den) : Int) - 1
  else
    let d := decimalLength (den / num)
    if num * Nat.pow 10 (d - 1) = den then 1 - (d : Int) else -(d : Int)

/-- `digits · 10 ^ exponent`. -/
structure Digits where
  digits : Nat
  exponent : Int
  deriving DecidableEq, Repr

def Digits.strip (x : Digits) : Nat → Digits
  | 0 => x
  | fuel + 1 =>
    if x.digits ≠ 0 ∧ x.digits % 10 = 0 then Digits.strip ⟨x.digits / 10, x.exponent + 1⟩ fuel else x

/-- The numbers that round to a given one: all between `low` and `high` over a common denominator, and the
    ends too when `closed`. -/
structure RoundingInterval where
  low : Nat
  value : Nat
  high : Nat
  denominator : Nat
  closed : Bool

def Binary64.interval (x : Binary64) : RoundingInterval :=
  let unit := Nat.pow 2 (x.exponent - 2).toNat
  let lowest := if x.significand = Nat.pow 2 52 ∧ -1074 < x.exponent then 1 else 2
  { low := (4 * x.significand - lowest) * unit
    value := 4 * x.significand * unit
    high := (4 * x.significand + 2) * unit
    denominator := Nat.pow 2 (2 - x.exponent).toNat
    closed := x.significand % 2 = 0 }

namespace RoundingInterval

def contains (i : RoundingInterval) (num den : Nat) : Bool :=
  let a := num * i.denominator
  if i.closed then i.low * den ≤ a && a ≤ i.high * den else i.low * den < a && a < i.high * den

/-- The decimal of at most `count` digits in the interval that is nearest to the value. -/
def digits? (i : RoundingInterval) (top : Int) (count : Nat) : Option Digits :=
  let k := top - (count : Int) + 1
  let scale := Nat.pow 10 k.toNat
  let unscale := Nat.pow 10 (-k).toNat
  let q := i.value * unscale / (i.denominator * scale)
  let below := i.contains (q * scale) unscale
  let above := i.contains ((q + 1) * scale) unscale
  let nearest := roundHalfEven (i.value * unscale) (i.denominator * scale)
  if below && above then some ⟨nearest, k⟩
  else if below then some ⟨q, k⟩
  else if above then some ⟨q + 1, k⟩
  else none

end RoundingInterval

def Binary64.shortest (x : Binary64) : Digits :=
  let i := x.interval
  let top := floorLog10 i.value i.denominator
  match (List.range' 1 17).findSome? (i.digits? top) with
  | some found => found.strip 20
  | none => ⟨x.significand, 0⟩

/-- Positional from `1e-5` up to seventeen digits before the point, with a point always; otherwise with a
    signed exponent. -/
def Digits.text (x : Digits) : String :=
  let ds := Nat.toDigits 10 x.digits
  let point : Int := x.exponent + ds.length
  if 0 ≤ x.exponent ∧ point ≤ 16 then
    String.ofList (ds ++ List.replicate x.exponent.toNat '0') ++ ".0"
  else if 0 < point ∧ point ≤ 16 then
    String.ofList (ds.take point.toNat) ++ "." ++ String.ofList (ds.drop point.toNat)
  else if -5 < point ∧ point ≤ 0 then
    "0." ++ String.ofList (List.replicate (-point).toNat '0' ++ ds)
  else
    let e := point - 1
    let exponent := (if e < 0 then "e-" else "e+") ++ toString e.natAbs
    match ds with
    | [d] => String.ofList [d] ++ exponent
    | d :: rest => String.ofList (d :: '.' :: rest) ++ exponent
    | [] => exponent

def Binary64.text (x : Binary64) : String :=
  (if x.negative then "-" else "") ++ if x.significand = 0 then "0.0" else x.shortest.text

end OriginRegistry.Decimal
