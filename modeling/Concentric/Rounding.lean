/-!
# Rounding a quotient to the nearest whole number

Every inexact step of the library is one and the same operation: an exact quotient of two naturals is
replaced by the nearest natural, and a quotient halfway between two naturals by the even one. The
lemmas below say that the result is within half a unit, that whole quotients stay as they are, and
that whole bounds on the quotient are bounds on the result.
-/

namespace Concentric

/-- **Nearest whole number** to `num / den`. Of two equally near ones it is the even one. -/
def roundQuotient (num den : Nat) : Nat :=
  if 2 * (num % den) < den ∨ (2 * (num % den) = den ∧ num / den % 2 = 0) then
    num / den
  else
    num / den + 1

/-- The result is one of the two neighbours of the quotient. -/
theorem roundQuotient_eq_or (num den : Nat) :
    roundQuotient num den = num / den ∨ roundQuotient num den = num / den + 1 := by
  unfold roundQuotient
  split
  · exact Or.inl rfl
  · exact Or.inr rfl

/-- The result is within half a unit of the quotient. -/
theorem roundQuotient_near {den : Nat} (num : Nat) (hpositive : 0 < den) :
    2 * (roundQuotient num den * den) ≤ 2 * num + den ∧
      2 * num ≤ 2 * (roundQuotient num den * den) + den := by
  have hwhole : den * (num / den) + num % den = num := Nat.div_add_mod num den
  have hsmall : num % den < den := Nat.mod_lt num hpositive
  unfold roundQuotient
  split
  · rw [Nat.mul_comm (num / den) den]
    omega
  · rw [Nat.add_mul, Nat.mul_comm (num / den) den]
    omega

/-- A tie goes to the even neighbour. -/
theorem roundQuotient_even_of_tie {num den : Nat} (htie : 2 * (num % den) = den) :
    roundQuotient num den % 2 = 0 := by
  unfold roundQuotient
  split <;> omega

/-- A whole quotient is not moved. -/
theorem roundQuotient_mul {den : Nat} (k : Nat) (hpositive : 0 < den) :
    roundQuotient (k * den) den = k := by
  have hdiv : k * den / den = k := Nat.mul_div_cancel k hpositive
  have hmod : k * den % den = 0 := Nat.mul_mod_left k den
  unfold roundQuotient
  rw [hdiv, hmod]
  simp [hpositive]

/-- A whole upper bound of the quotient bounds the result. -/
theorem roundQuotient_le {num den k : Nat} (hpositive : 0 < den) (hbound : num ≤ k * den) :
    roundQuotient num den ≤ k := by
  have hwhole : den * (num / den) + num % den = num := Nat.div_add_mod num den
  have hbelow : num / den ≤ k := by
    rw [← Nat.mul_div_cancel k hpositive]
    exact Nat.div_le_div_right hbound
  unfold roundQuotient
  split
  · exact hbelow
  · rcases Nat.lt_or_ge (num / den) k with hless | htop
    · exact hless
    · have hsame : num / den = k := Nat.le_antisymm hbelow htop
      rw [hsame, Nat.mul_comm] at hwhole
      omega

/-- A whole lower bound of the quotient bounds the result. -/
theorem le_roundQuotient {num den k : Nat} (hpositive : 0 < den) (hbound : k * den ≤ num) :
    k ≤ roundQuotient num den := by
  have habove : k ≤ num / den := (Nat.le_div_iff_mul_le hpositive).mpr hbound
  rcases roundQuotient_eq_or num den with hdown | hup
  · rw [hdown]; exact habove
  · rw [hup]; exact Nat.le_succ_of_le habove

/-- The rounding depends on the quotient alone: a common factor cancels. -/
theorem roundQuotient_mul_mul {factor : Nat} (num den : Nat) (hpositive : 0 < factor) :
    roundQuotient (factor * num) (factor * den) = roundQuotient num den := by
  have hless : 2 * (factor * (num % den)) < factor * den ↔ 2 * (num % den) < den := by
    rw [Nat.mul_left_comm]
    exact Nat.mul_lt_mul_left hpositive
  have hsame : 2 * (factor * (num % den)) = factor * den ↔ 2 * (num % den) = den := by
    rw [Nat.mul_left_comm]
    exact Nat.mul_right_inj (Nat.pos_iff_ne_zero.mp hpositive)
  unfold roundQuotient
  rw [Nat.mul_div_mul_left _ _ hpositive, Nat.mul_mod_mul_left]
  simp only [hless, hsame]

end Concentric
