/-!
# Binary floating point

The finite nonnegative numbers of the 64-bit binary format, as a significand of at most 53 bits
and a power of two, and rounding to the nearest of them. The arithmetic is exact and rounds once
at the end; of two numbers equally near, the one with the even significand is taken.
-/

namespace EntityRelationship

/-- The number `significand * 2 ^ exponent`. -/
structure Binary64 where
  significand : Nat
  exponent : Int
  deriving DecidableEq

namespace Binary64

/-- The rational number that a floating-point number stands for. -/
def value (b : Binary64) : Rat :=
  b.significand * (2 : Rat) ^ b.exponent

/-- The zero. -/
def zero : Binary64 := ⟨0, -1074⟩

/-- The greatest `e` with `base ^ e ≤ x`, for a positive `x`, where `digits` counts the digits of
a positive number in that base. -/
def order (base : Rat) (digits : Nat → Nat) (x : Rat) : Int :=
  let e : Int := digits x.num.toNat - digits x.den
  if base ^ e ≤ x then e else e - 1

/-- The nearest natural number to a nonnegative `x`; a half goes to the even neighbor. -/
def roundToEven (x : Rat) : Nat :=
  let n := x.floor.toNat
  let excess := x - n
  if excess < 1 / 2 then n
  else if 1 / 2 < excess then n + 1
  else if n % 2 = 0 then n else n + 1

/-- The number of binary digits. -/
def binaryLength (n : Nat) : Nat := n.log2 + 1

/-- The significands of full precision are those below this bound and not below half of it. -/
def significandBound : Nat := 1 <<< 53

/-- The floating-point number nearest to a nonnegative `x`, or `none` if `x` is too large. -/
def nearest? (x : Rat) : Option Binary64 :=
  if x ≤ 0 then some zero
  else
    let e := max (order 2 binaryLength x) (-1022) - 52
    let m := roundToEven (x / (2 : Rat) ^ e)
    let b : Binary64 := if m = significandBound then ⟨significandBound / 2, e + 1⟩ else ⟨m, e⟩
    if b.exponent > 971 then none else some b

/-- The nearest number to `b * 10 ^ k`, where `k` is at most 308 and the power of ten is rounded
first. -/
def timesPower? (b : Binary64) (k : Nat) : Option Binary64 := do
  let p ← nearest? ((10 : Rat) ^ k)
  nearest? (b.value * p.value)

/-- The nearest number to `b / 10 ^ k`, where `k` is at most 308 and the power of ten is rounded
first. -/
def overPower? (b : Binary64) (k : Nat) : Option Binary64 := do
  let p ← nearest? ((10 : Rat) ^ k)
  nearest? (b.value / p.value)

/-- The greatest power of ten by which a number is divided or multiplied at a time. -/
def greatestPower : Nat := 308

/-- A number near `b / 10 ^ k`, divided by one power of ten after the other. -/
def shiftDown? (b : Binary64) (k : Nat) : Option Binary64 :=
  if k ≤ greatestPower then b.overPower? k
  else if b.significand = 0 then some b
  else (b.overPower? greatestPower).bind fun b => b.shiftDown? (k - greatestPower)
termination_by k
decreasing_by
  have : 0 < greatestPower := by decide
  omega

/-- A number near `b * 10 ^ k`, or `none` if it is too large. -/
def shiftUp? (b : Binary64) (k : Nat) : Option Binary64 :=
  if k ≤ greatestPower then b.timesPower? k
  else if b.significand = 0 then some b
  else none

/-- A number near `significand * 10 ^ exponent`, or `none` if it is too large. -/
def ofDecimal? (significand : Nat) (exponent : Int) : Option Binary64 := do
  let b ← nearest? significand
  if exponent < 0 then b.shiftDown? exponent.natAbs else b.shiftUp? exponent.natAbs

end Binary64

end EntityRelationship
