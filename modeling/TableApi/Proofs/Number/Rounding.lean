import TableApi.Proofs.Number.Decimal

/-!
# Whole numbers as doubles

A whole number of at most 53 bits is a double, so it is rounded to itself.  Two such numbers that
compare as doubles are therefore equal only if they are the same, which fails from 54 bits on.
-/

namespace TableApi

/-- The least whole number beyond those of 53 bits. -/
def Double.exactBound : Nat := 2 ^ 53

namespace Double

/-- A multiple of the spacing is rounded to itself. -/
theorem divideToEven_of_dvd {numerator step : Nat} (divides : step ∣ numerator)
    (positive : 0 < step) : divideToEven numerator step * step = numerator := by
  have none : numerator % step = 0 := Nat.eq_zero_of_dvd_of_lt (by
    rw [Nat.mod_eq_zero_of_dvd divides]
    exact Nat.dvd_zero _) (Nat.mod_lt _ positive)
  simp only [divideToEven, none, Nat.mul_zero, positive, if_true]
  exact Nat.div_mul_cancel divides

/-- Near a number of 53 bits the doubles are not further apart than the whole numbers. -/
theorem spacing_dvd {value : Nat} (small : value < exactBound) (places : Nat) :
    spacing (value * Nat.pow 2 places) ∣ Nat.pow 2 places := by
  refine Nat.pow_dvd_pow 2 ?_
  by_cases zero : value * 2 ^ places = 0
  · have none : (value * Nat.pow 2 places).log2 = 0 := by
      rw [Nat.pow_eq, zero]
      decide
    omega
  · have below : value * 2 ^ places < 2 ^ (53 + places) := by
      rw [Nat.pow_add]
      exact Nat.mul_lt_mul_of_pos_right small (Nat.two_pow_pos _)
    have short : (value * Nat.pow 2 places).log2 < 53 + places := (Nat.log2_lt zero).2 below
    omega

theorem mul_lt_bound {value places limit : Nat} (small : value < exactBound)
    (fits : 53 + places ≤ limit) : value * Nat.pow 2 places < Nat.pow 2 limit := by
  calc value * 2 ^ places < 2 ^ 53 * 2 ^ places :=
        Nat.mul_lt_mul_of_pos_right small (Nat.two_pow_pos _)
    _ = 2 ^ (53 + places) := (Nat.pow_add 2 53 places).symm
    _ ≤ 2 ^ limit := Nat.pow_le_pow_right (by decide) fits

/-- There is room for numbers of 53 bits between the least positive value and the bound. -/
theorem exists_places :
    ∃ places limit, one = Nat.pow 2 places ∧ bound = Nat.pow 2 limit ∧ 53 + places ≤ limit := by
  unfold one bound
  exact ⟨_, _, Eq.refl _, Eq.refl _, by decide⟩

theorem one_pos : 0 < one := by
  rcases exists_places with ⟨places, _, power, _⟩
  rw [power]
  exact Nat.two_pow_pos places

/-- A whole number of 53 bits is a double. -/
theorem roundRatio?_exact {value : Nat} (small : value < exactBound) :
    roundRatio? value 1 = some (value * one) := by
  rcases exists_places with ⟨places, limit, power, top, fits⟩
  have near : spacing (value * one) ∣ one := power ▸ spacing_dvd small places
  have divides : spacing (value * one) ∣ value * one := Nat.dvd_trans near (Nat.dvd_mul_left _ _)
  have below : value * one < bound := by
    rw [power, top]
    exact mul_lt_bound small fits
  simp only [roundRatio?, Nat.div_one, Nat.one_mul,
    divideToEven_of_dvd divides (Nat.two_pow_pos _), below, if_true]

end Double

namespace Reading

open Text

/-- The digits of a number of 53 bits read as this number. -/
theorem ofDecimal_toDigits {value : Nat} (small : value < Double.exactBound) (negative : Bool) :
    ofDecimal negative (Nat.toDigits 10 value) 0 = finite ⟨negative, value * Double.one⟩ := by
  have spelled := digitsValue?_toDigits value
  by_cases zero : value = 0
  · subst zero
    rw [ofDecimal, spelled, Option.getD_some, if_pos rfl, Nat.zero_mul]
  · have below : value < 10 ^ 16 := Nat.lt_trans small (by decide)
    have short := length_significant_le spelled below
    generalize sized : ((Nat.toDigits 10 value).dropWhile (· == '0')).length = size at short
    have notLarge : ¬(310 : Int) < (size : Int) + 0 := by omega
    have notSmall : ¬(size : Int) + 0 < -330 := by omega
    have power : value * Nat.pow 10 (0 : Int).toNat = value := Nat.mul_one value
    simp only [ofDecimal, spelled, sized, Option.getD_some, zero, notLarge, notSmall, if_false,
      Int.le_refl, if_true, power, Double.roundRatio?_exact small]

theorem signedUnits_eq (value : Int) (unit : Nat) :
    Double.signedUnits ⟨value < 0, value.natAbs * unit⟩ = value * unit := by
  by_cases negative : value < 0
  · have size : (value.natAbs : Int) = -value := by omega
    simp only [Double.signedUnits, negative, decide_true, if_true, Int.natCast_mul, size,
      Int.neg_mul, Int.neg_neg]
  · have size : (value.natAbs : Int) = value := by omega
    simp [Double.signedUnits, negative, size]

/-- Integers of 53 bits whose readings are equal are the same. -/
theorem eq_of_compare? {first second : Int} {one other : Reading}
    (small : first.natAbs < Double.exactBound) (smaller : second.natAbs < Double.exactBound)
    (reads : ofText? (toString first).toList = some one)
    (alike : ofText? (toString second).toList = some other)
    (equal : compare? one other = some .eq) : first = second := by
  rw [ofText?_toString, ofDecimal_toDigits small] at reads
  rw [ofText?_toString, ofDecimal_toDigits smaller] at alike
  cases reads
  cases alike
  have same : Double.signedUnits ⟨first < 0, first.natAbs * Double.one⟩ =
      Double.signedUnits ⟨second < 0, second.natAbs * Double.one⟩ := by
    simpa [compare?, Double.compare] using equal
  rw [signedUnits_eq, signedUnits_eq] at same
  have positive : (Double.one : Int) ≠ 0 := by
    exact_mod_cast Nat.ne_of_gt Double.one_pos
  exact Int.eq_of_mul_eq_mul_right positive same

end Reading

end TableApi
