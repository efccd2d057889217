/-!
# Machine words

Durations and counters are signed 64-bit words: arithmetic on them wraps around, and
division rounds toward zero.
-/

namespace Foreman.Word

def modulus : Int := 18446744073709551616

/-- The signed 64-bit word an integer wraps around to. -/
def wrap (x : Int) : Int := (x + 9223372036854775808) % modulus - 9223372036854775808

def quot (a b : Int) : Int := Int.tdiv a b

theorem wrap_of_small (x : Int) (h1 : -9223372036854775808 ≤ x) (h2 : x < 9223372036854775808) : wrap x = x := by
  unfold wrap modulus
  rw [Int.emod_eq_of_lt (by omega) (by omega)]
  omega

end Foreman.Word
