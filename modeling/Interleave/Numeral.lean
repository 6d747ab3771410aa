/-!
# Positional numerals

Natural numbers as digits in a base.

* `Numeral.digits`: the digits of a number, most significant first, with no leading zero.
* `Numeral.value`: the number that digits stand for.
* `Numeral.value_digits`: the digits of a number stand for that number.
* `Numeral.digits_lt`, `Numeral.eq_zero_of_head?_digits`: every digit is less than the base, and the
  first is not zero, unless the number is.
-/

namespace Interleave.Numeral

/-- Zero has the one digit 0. -/
def digits (base n : Nat) : List Nat :=
  if _small : n < base ∨ base < 2 then [n] else digits base (n / base) ++ [n % base]
termination_by n
decreasing_by exact Nat.div_lt_self (by omega) (by omega)

def value (base : Nat) (ds : List Nat) : Nat :=
  ds.foldl (fun n d => n * base + d) 0

theorem value_append_singleton (base : Nat) (ds : List Nat) (d : Nat) :
    value base (ds ++ [d]) = value base ds * base + d := by
  simp [value]

theorem value_digits (base n : Nat) : value base (digits base n) = n := by
  fun_induction digits base n with
  | case1 n _ => simp [value]
  | case2 n _ ih => rw [value_append_singleton, ih, Nat.mul_comm]; exact Nat.div_add_mod n base

theorem digits_lt {base n : Nat} (hbase : 2 ≤ base) : ∀ d ∈ digits base n, d < base := by
  fun_induction digits base n with
  | case1 n hsmall =>
    intro d hd
    obtain rfl := List.mem_singleton.1 hd
    omega
  | case2 n _ ih =>
    intro d hd
    rcases List.mem_append.1 hd with hd | hd
    · exact ih d hd
    · obtain rfl := List.mem_singleton.1 hd
      exact Nat.mod_lt n (by omega)

theorem digits_zero (base : Nat) : digits base 0 = [0] := by
  rw [digits, dif_pos (by omega)]

theorem digits_ne_nil (base n : Nat) : digits base n ≠ [] := by
  rw [digits]
  split <;> simp

/-- Only zero begins with the digit 0. -/
theorem eq_zero_of_head?_digits {base n : Nat} (hbase : 2 ≤ base)
    (h : (digits base n).head? = some 0) : n = 0 := by
  fun_induction digits base n with
  | case1 n _ => exact Option.some.inj h
  | case2 n hlarge ih =>
    have hhead : (digits base (n / base)).head? = some 0 := by
      cases hdigits : digits base (n / base) with
      | nil => exact absurd hdigits (digits_ne_nil base (n / base))
      | cons d rest => simpa [hdigits] using h
    have hquotient : n / base = 0 := ih hhead
    have hsmall : n < base := (Nat.div_eq_zero_iff.1 hquotient).resolve_left (by omega)
    exact absurd (.inl hsmall) hlarge

end Interleave.Numeral
