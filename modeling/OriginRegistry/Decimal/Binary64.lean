/-!
Binary numbers of 64 bits. A finite number is a sign and `significand · 2 ^ exponent`, with at most 53 bits
in the significand and an exponent from `-1074` to `971`. Results of arithmetic are rounded to the nearest
such number, and of two equally near ones to the even one.
-/

set_option autoImplicit false

namespace OriginRegistry.Decimal

structure Binary64 where
  negative : Bool
  significand : Nat
  exponent : Int
  deriving DecidableEq, Repr

/-- `num / den` in whole units, a half going to the even neighbour. -/
def roundHalfEven (num den : Nat) : Nat :=
  let q := num / den
  let r := num % den
  if 2 * r < den then q else if den < 2 * r then q + 1 else q + q % 2

def inUnits (num den : Nat) (e : Int) : Nat × Nat :=
  if 0 ≤ e then (num, den * Nat.pow 2 e.toNat) else (num * Nat.pow 2 (-e).toNat, den)

namespace Binary64

def zero (negative : Bool) : Binary64 := ⟨negative, 0, 0⟩

/-- The number nearest to `num / den`; `none` when that is too large for a finite one. -/
def ofFraction? (negative : Bool) (num den : Nat) : Option Binary64 :=
  if num = 0 then some (zero negative)
  else
    let low : Int := max ((num.log2 : Int) - den.log2 - 53) (-1074)
    let (n, d) := inUnits num den low
    let e := if n < Nat.pow 2 53 * d then low else low + 1
    let (n, d) := inUnits num den e
    let m := roundHalfEven n d
    let (m, e) := if m = Nat.pow 2 53 then (Nat.pow 2 52, e + 1) else (m, e)
    if 971 < e then none else some ⟨negative, m, e⟩

def fraction (x : Binary64) : Nat × Nat :=
  (x.significand * Nat.pow 2 x.exponent.toNat, Nat.pow 2 (-x.exponent).toNat)

def mul? (x y : Binary64) : Option Binary64 :=
  let (a, b) := x.fraction
  let (c, d) := y.fraction
  ofFraction? (x.negative != y.negative) (a * c) (b * d)

def div? (x y : Binary64) : Option Binary64 :=
  let (a, b) := x.fraction
  let (c, d) := y.fraction
  ofFraction? (x.negative != y.negative) (a * d) (b * c)

def ofNat? (n : Nat) : Option Binary64 := ofFraction? false n 1

/-- `x · 10 ^ exponent`, one rounded step for each power of ten up to the 308th. Past that, a number
    keeps its zero, overflows, or is made smaller first. -/
def scaleByTen (x : Binary64) (exponent : Int) : Nat → Option Binary64
  | 0 => some (zero x.negative)
  | fuel + 1 =>
    if exponent.natAbs ≤ 308 then do
      let power ← ofNat? (Nat.pow 10 exponent.natAbs)
      if 0 ≤ exponent then x.mul? power else x.div? power
    else if x.significand = 0 then some x
    else if 0 ≤ exponent then none
    else do
      let power ← ofNat? (Nat.pow 10 308)
      let y ← x.div? power
      y.scaleByTen (exponent + 308) fuel

def ofDigits? (negative : Bool) (significand : Nat) (exponent : Int) : Option Binary64 := do
  let x ← ofFraction? negative significand 1
  x.scaleByTen exponent (exponent.natAbs + 1)

end Binary64

end OriginRegistry.Decimal
