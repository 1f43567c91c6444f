/-!
# Positional numerals

Digits of a natural number, most significant first, and their value.
-/

namespace SafetyConfig.Digits

/-- The digits of `n`; a single zero for zero. Bases below two have no numerals. -/
def ofNat (base n : Nat) : List Nat :=
  if _h : 2 ≤ base ∧ base ≤ n then ofNat base (n / base) ++ [n % base] else [n]
termination_by n
decreasing_by
  exact Nat.div_lt_self (by omega) (by omega)

def toNat (base : Nat) (ds : List Nat) : Nat :=
  ds.foldl (fun n d => n * base + d) 0

theorem toNat_append_singleton (base : Nat) (ds : List Nat) (d : Nat) :
    toNat base (ds ++ [d]) = toNat base ds * base + d := by
  simp [toNat]

theorem toNat_ofNat (base n : Nat) : toNat base (ofNat base n) = n := by
  fun_induction ofNat base n with
  | case1 n _ ih => rw [toNat_append_singleton, ih, Nat.mul_comm, Nat.div_add_mod]
  | case2 n _ => simp [toNat]

theorem lt_of_mem_ofNat {base n d : Nat} (hb : 2 ≤ base) (h : d ∈ ofNat base n) : d < base := by
  fun_induction ofNat base n with
  | case1 n _ ih =>
    rcases List.mem_append.mp h with h | h
    · exact ih h
    · rw [List.mem_singleton.mp h]
      exact Nat.mod_lt _ (by omega)
  | case2 n hn =>
    rw [List.mem_singleton.mp h]
    omega

/-- Digits above nine are small letters. -/
def char (d : Nat) : Char :=
  Char.ofNat (if d < 10 then 48 + d else 87 + d)

def decimal (n : Nat) : List Char :=
  (ofNat 10 n).map char

/-- A minus sign stands before the digits of a negative number. -/
def signedDecimal : Int → List Char
  | .ofNat n => decimal n
  | .negSucc n => '-' :: decimal (n + 1)

def hex (n : Nat) : List Char :=
  (ofNat 16 n).map char

end SafetyConfig.Digits
