/-!
# Whole numbers in double precision

A double keeps 53 leading binary digits. These functions say, in exact arithmetic, which whole
number a double ends up with, and how it is written in decimal.

* `Double.unit`: the worth of the last digit that a double keeps.
* `Double.nearest`: the double nearest to a whole number; of two, the one whose last kept digit is
  even.
* `Double.isInfinite`: a product too large for any double.
* `Double.shortest`: the roundest whole number that reads back as a given double.
-/

namespace Interleave.Double

/-- The worth of the last binary digit that a double keeps of `n`. -/
def unit (n : Nat) : Nat :=
  1 <<< (n.log2 + 1 - 53)

def nearest (n : Nat) : Nat :=
  let u := unit n
  let kept := n / u
  let lost := n % u
  if u < 2 * lost ∨ (u = 2 * lost ∧ kept % 2 = 1) then (kept + 1) * u else kept * u

/-- From half a unit above the largest double on, a number rounds to infinity. -/
def isInfinite (n : Nat) : Bool :=
  (1 <<< 1024) - (1 <<< 970) ≤ n

/-- Whether `x` rounds to the double `d`: it lies within half the distance to the next double on
either side. The next double below a power of two is nearer by half. The ends count if the last kept
digit of `d` is even. -/
def readsBack (d x : Nat) : Bool :=
  let u := unit d
  let kept := d / u
  let low := 4 * d - (if kept = 1 <<< 52 then u else 2 * u)
  let high := 4 * d + 2 * u
  if kept % 2 = 0 then low ≤ 4 * x && 4 * x ≤ high else low < 4 * x && 4 * x < high

/-- The number nearest to `d` among the multiples of 10, 100, … up to the given power that read back
as `d`; the largest power with such a multiple wins. -/
def shortestBelow (d : Nat) : Nat → Nat
  | 0 => d
  | power + 1 =>
    let step := Nat.pow 10 (power + 1)
    let low := d / step * step
    let high := low + step
    match readsBack d low, readsBack d high with
    | true, true => if d - low < high - d then low else high
    | true, false => low
    | false, true => high
    | false, false => shortestBelow d power

/-- Below 2^53 a double tells neighbouring whole numbers apart, so only the number itself reads
back. -/
def shortest (d : Nat) : Nat :=
  if d < 1 <<< 53 then d else shortestBelow d (Nat.toDigits 10 d).length

end Interleave.Double
