import EntityRelationship.Decimal.Binary64

/-!
# Shortest decimal text

A floating-point number is written with the fewest significant digits that read back as the same
number, among these with the nearest, and of two equally near ones with the even one. It is written
positionally if its point falls near the digits, and with an exponent otherwise.
-/

namespace EntityRelationship

/-- The number `digits * 10 ^ exponent`. -/
structure Decimal where
  digits : Nat
  exponent : Int
  deriving DecidableEq

namespace Decimal

/-- The rational number that a decimal stands for. -/
def value (d : Decimal) : Rat :=
  d.digits * (10 : Rat) ^ d.exponent

/-- The number of decimal digits. -/
def decimalLength (n : Nat) : Nat :=
  (Nat.toDigits 10 n).length

/-- Whether a decimal reads back as a floating-point number. -/
def readsBack (b : Binary64) (d : Decimal) : Bool :=
  Binary64.nearest? d.value == some b

/-- The two decimals of a given number of digits between which a positive number lies. -/
def around (x : Rat) (length : Nat) : Decimal × Decimal :=
  let exponent := Binary64.order 10 decimalLength x - length + 1
  let n := (x / (10 : Rat) ^ exponent).floor.toNat
  (⟨n, exponent⟩, ⟨n + 1, exponent⟩)

/-- The nearer of two neighboring decimals. If both are equally near, it is the one whose last
digit is even. -/
def nearer (x : Rat) (low high : Decimal) : Decimal :=
  let below := x - low.value
  let above := high.value - x
  if below < above then low
  else if above < below then high
  else if low.digits % 2 = 0 then low else high

/-- The nearest decimal of a given number of digits that reads back, if there is one. -/
def ofLength? (b : Binary64) (length : Nat) : Option Decimal :=
  let (low, high) := around b.value length
  match readsBack b low, readsBack b high with
  | true, true => some (nearer b.value low high)
  | true, false => some low
  | false, true => some high
  | false, false => none

/-- The decimal without the zeros at the end of its digits. -/
def trimZeros (d : Decimal) : Decimal :=
  if _h : d.digits ≠ 0 ∧ d.digits % 10 = 0 then trimZeros ⟨d.digits / 10, d.exponent + 1⟩ else d
termination_by d.digits
decreasing_by omega

/-- The shortest decimal that reads back. Seventeen digits always suffice. -/
def shortest (b : Binary64) : Decimal :=
  trimZeros (((List.range 17).findSome? fun i => ofLength? b (i + 1)).getD ⟨0, 0⟩)

/-! ## Layout -/

/-- The text of a decimal. The point stands among the digits or beside them if that takes at most
four zeros behind it or sixteen places before it, and there is a digit on either side of it.
Otherwise it stands behind the first digit, and an exponent with its sign follows. -/
def text (d : Decimal) : String :=
  let digits := Nat.toDigits 10 d.digits
  let point := digits.length + d.exponent
  let zeros (n : Int) := List.replicate n.toNat '0'
  if d.digits = 0 then "0.0"
  else if 0 ≤ d.exponent ∧ point ≤ 16 then
    String.ofList (digits ++ zeros d.exponent) ++ ".0"
  else if 0 < point ∧ point ≤ 16 then
    String.ofList (digits.take point.toNat) ++ "." ++ String.ofList (digits.drop point.toNat)
  else if -5 < point ∧ point ≤ 0 then
    "0." ++ String.ofList (zeros (-point) ++ digits)
  else
    let exponent := (if 0 < point then "e+" else "e") ++ toString (point - 1)
    match digits with
    | [] => exponent
    | [c] => c.toString ++ exponent
    | c :: cs => c.toString ++ "." ++ String.ofList cs ++ exponent

end Decimal

end EntityRelationship
