import Interleave.Json.Value
import Interleave.Numeral.Double

/-!
# Numbers that have a double

A number that is kept as a general value is turned into a double, digit by digit and then by one
power of ten. One that would become infinite is refused.

* `Literal.significand`: the digits that are kept, as a whole number and a power of ten.
* `Literal.overflows`: the number becomes infinite.
-/

namespace Interleave.Json.Literal

/-- Append digits to a number as long as it fits 64 bits. Answers the number and how many digits
fitted. -/
def absorb (n : Nat) : List Nat → Nat × Nat
  | [] => (n, 0)
  | d :: ds =>
    if n * 10 + d < UInt64.size then
      let (n, count) := absorb (n * 10 + d) ds
      (n, count + 1)
    else (n, 0)

/-- Digits of the whole part that do not fit still count as places; those of the fraction are
dropped. -/
def significand (l : Literal) : Nat × Int :=
  let (whole, taken) := absorb 0 l.whole
  let (n, places) := absorb whole (l.fraction.getD [])
  (n, (l.whole.length - taken : Nat) - (places : Int))

/-- The largest exponent that is taken as it is written. -/
def maxExponent : Nat := 2147483647

/-- `n` times ten to the power `e` is infinite, the power being rounded to a double of its own. -/
def isInfiniteAt (n : Nat) (e : Int) : Bool :=
  if e < 0 ∨ n = 0 then false
  else if 308 < e then true
  else Double.isInfinite (Double.nearest n * Double.nearest (Nat.pow 10 e.toNat))

def overflows (l : Literal) : Bool :=
  let (n, places) := l.significand
  match l.exponent with
  | none => isInfiniteAt n places
  | some (negative, ds) =>
    let e := Numeral.value 10 ds
    if maxExponent < e then n ≠ 0 && !negative
    else isInfiniteAt n (if negative then places - e else places + e)

end Interleave.Json.Literal
