import EntityRelationship.Decimal.Binary64
import EntityRelationship.Text.Search

/-!
# Numbers in a snapshot

No field of a snapshot is a number, but a number may stand where something else is expected, and
the message then says which. A number without a point and an exponent is an integer if it fits in
64 bits; every other number is a floating-point number. Of more than nineteen or so digits only
those count that fit in 64 bits together.
-/

namespace EntityRelationship.Snapshot

/-- What a number stands for. -/
inductive Number where
  | integer (n : Int)
  | floating (negative : Bool) (magnitude : Binary64)
  deriving DecidableEq

/-- The greatest number of 64 bits. -/
def greatestWord : Nat := (1 <<< 64) - 1

/-- The magnitude of the least integer of 64 bits. -/
def greatestMagnitude : Nat := 1 <<< 63

/-- Appends digits to a number for as long as it fits in 64 bits, and gives the digits that are
left over. -/
def fitDigits (n : Nat) : List Char → Nat × List Char
  | [] => (n, [])
  | c :: cs =>
    let m := 10 * n + Text.digitValue c
    if m ≤ greatestWord then fitDigits m cs else (n, c :: cs)

/-- Splits off a leading sign, and tells whether it is a minus. -/
def splitSign : List Char → Bool × List Char
  | '-' :: cs => (true, cs)
  | '+' :: cs => (false, cs)
  | cs => (false, cs)

/-- The exponent that a number ends with, given what follows its digits. -/
def exponentOf : List Char → Int
  | [] => 0
  | _ :: cs =>
    let (negative, digits) := splitSign cs
    let n : Int := Text.decimalValue digits
    if negative then -n else n

/-- What a well-formed number stands for, or `none` if it is too large. The minus of an integer
zero is kept by taking it for a floating-point number. -/
def Number.ofText? (text : List Char) : Option Number :=
  let (negative, cs) := splitSign text
  let whole := cs.takeWhile Char.isDigit
  let rest := cs.dropWhile Char.isDigit
  let (n, dropped) := fitDigits 0 whole
  let floating (n : Nat) (exponent : Int) : Option Number :=
    (Binary64.ofDecimal? n exponent).map (.floating negative)
  match rest with
  | [] =>
    if dropped ≠ [] then floating n dropped.length
    else if !negative then some (.integer n)
    else if 0 < n ∧ n ≤ greatestMagnitude then some (.integer (-n))
    else floating n 0
  | '.' :: cs =>
    let fraction := cs.takeWhile Char.isDigit
    let (m, ignored) := fitDigits n fraction
    floating m (dropped.length - (fraction.length - ignored.length : Nat)
      + exponentOf (cs.dropWhile Char.isDigit))
  | rest => floating n (dropped.length + exponentOf rest)

end EntityRelationship.Snapshot
