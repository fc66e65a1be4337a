import Mathlib.Data.Nat.Dist
import PluginHost.Proofs.Decimal.Double

/-!
# Rounding to doubles

A fraction is read as a double nearest to it: the quotient is rounded to a whole number of grid
points, and the grid is as fine as 53 significant bits allow.  A whole number is given back exactly
where its magnitude is fewer than `2 ^ 53` times a power of two.
-/

namespace PluginHost

namespace Double

variable {numerator denominator quotient : Nat} {negative : Bool} {rounded : Double}

/-! ### Whole multiples -/

theorem roundedQuotient_cases (numerator denominator : Nat) :
    (2 * (numerator % denominator) ≤ denominator ∧
        roundedQuotient numerator denominator = numerator / denominator) ∨
      (denominator ≤ 2 * (numerator % denominator) ∧
        roundedQuotient numerator denominator = numerator / denominator + 1) := by
  rw [roundedQuotient]
  split
  · next up =>
      have beyond : denominator ≤ 2 * (numerator % denominator) := by
        rcases Bool.or_eq_true_iff.mp up with more | tie
        · exact Nat.le_of_lt (of_decide_eq_true more)
        · exact Nat.le_of_eq (beq_iff_eq.mp (Bool.and_eq_true_iff.mp tie).1)
      exact .inr ⟨beyond, rfl⟩
  · next down =>
      have within : ¬ denominator < 2 * (numerator % denominator) := by
        intro more
        exact down (by simp [more])
      exact .inl ⟨Nat.not_lt.mp within, rfl⟩

theorem dist_roundedQuotient_le (numerator : Nat) (positive : 0 < denominator) (other : Nat) :
    Nat.dist (roundedQuotient numerator denominator * denominator) numerator ≤
      Nat.dist (other * denominator) numerator := by
  have divided := Nat.div_add_mod' numerator denominator
  have remainder := Nat.mod_lt numerator positive
  have next : (numerator / denominator + 1) * denominator =
      numerator / denominator * denominator + denominator := Nat.succ_mul _ _
  have side : other * denominator ≤ numerator / denominator * denominator ∨
      (numerator / denominator + 1) * denominator ≤ other * denominator := by
    rcases Nat.lt_or_ge (numerator / denominator) other with above | below
    · exact .inr (Nat.mul_le_mul_right _ above)
    · exact .inl (Nat.mul_le_mul_right _ below)
  unfold Nat.dist
  rcases roundedQuotient_cases numerator denominator with ⟨half, same⟩ | ⟨half, same⟩
  · rw [same]
    omega
  · rw [same]
    omega

/-! ### The grid -/

theorem lt_two_pow_scaleFor (quotient : Nat) :
    quotient < Nat.pow 2 53 * Nat.pow 2 (scaleFor quotient) := by
  have log : quotient < 2 ^ (quotient.log2 + 1) := Nat.lt_log2_self
  have exponent : quotient.log2 + 1 ≤ 53 + scaleFor quotient := by
    rw [scaleFor]
    split
    · next zero =>
        rw [beq_iff_eq.mp zero]
        decide
    · omega
  calc quotient < 2 ^ (quotient.log2 + 1) := log
    _ ≤ 2 ^ (53 + scaleFor quotient) := Nat.pow_le_pow_right (by decide) exponent
    _ = Nat.pow 2 53 * Nat.pow 2 (scaleFor quotient) := Nat.pow_add 2 53 _

theorem two_pow_scaleFor_le (scaled : scaleFor quotient ≠ 0) :
    Nat.pow 2 52 * Nat.pow 2 (scaleFor quotient) ≤ quotient := by
  rw [scaleFor] at scaled ⊢
  split at scaled
  · exact absurd rfl scaled
  · next notZero =>
      rw [if_neg notZero]
      have log : 2 ^ quotient.log2 ≤ quotient := Nat.log2_self_le (by simpa using notZero)
      have exponent : 52 + (quotient.log2 - 52) = quotient.log2 := by omega
      calc Nat.pow 2 52 * Nat.pow 2 (quotient.log2 - 52) = 2 ^ (52 + (quotient.log2 - 52)) :=
            (Nat.pow_add 2 52 _).symm
        _ ≤ quotient := by rwa [exponent]

theorem significand_bounds (numerator denominator : Nat) :
    let scale := scaleFor (numerator / denominator)
    let significand := roundedQuotient numerator (denominator * Nat.pow 2 scale)
    significand ≤ Nat.pow 2 53 ∧ (scale ≠ 0 → Nat.pow 2 52 ≤ significand) := by
  intro scale significand
  have positive : 0 < Nat.pow 2 scale := Nat.two_pow_pos scale
  have inSteps : numerator / (denominator * Nat.pow 2 scale) =
      numerator / denominator / Nat.pow 2 scale := (Nat.div_div_eq_div_mul ..).symm
  have below : numerator / denominator / Nat.pow 2 scale < Nat.pow 2 53 :=
    (Nat.div_lt_iff_lt_mul positive).mpr (lt_two_pow_scaleFor _)
  have above (scaled : scale ≠ 0) : Nat.pow 2 52 ≤ numerator / denominator / Nat.pow 2 scale :=
    (Nat.le_div_iff_mul_le positive).mpr (two_pow_scaleFor_le scaled)
  rcases roundedQuotient_cases numerator (denominator * Nat.pow 2 scale) with
    ⟨-, same⟩ | ⟨-, same⟩
  all_goals
    rw [inSteps] at same
    constructor
    · omega
    · intro scaled
      have atLeast := above scaled
      omega

/-- A significand of at most 53 bits on a scale in range is that of a double, the first of 54 bits
on the next scale. -/
theorem exists_double_of_significand (negative : Bool) {significand scale : Nat}
    (most : significand ≤ Nat.pow 2 53) (least : scale ≠ 0 → Nat.pow 2 52 ≤ significand)
    (small : scale ≤ 2044) :
    ∃ rounded : Double,
      (if significand == Nat.pow 2 53 then ofParts? negative (Nat.pow 2 52) (scale + 1)
        else ofParts? negative significand scale) = some rounded ∧
      rounded.negative = negative ∧ rounded.magnitude = significand * Nat.pow 2 scale := by
  split
  · next full =>
      have canonical : Nat.pow 2 52 < Nat.pow 2 53 ∧ scale + 1 ≤ 2045 ∧
          (Nat.pow 2 52 ≤ Nat.pow 2 52 ∨ scale + 1 = 0) :=
        ⟨by decide, by omega, .inl (Nat.le_refl _)⟩
      refine ⟨⟨negative, Nat.pow 2 52, scale + 1, canonical⟩, dif_pos canonical, rfl, ?_⟩
      rw [beq_iff_eq.mp full, magnitude]
      calc 2 ^ 52 * 2 ^ (scale + 1) = 2 ^ (52 + (scale + 1)) := (Nat.pow_add ..).symm
        _ = 2 ^ (53 + scale) := by congr 1; omega
        _ = 2 ^ 53 * 2 ^ scale := Nat.pow_add ..
  · next notFull =>
      have notFull : significand ≠ Nat.pow 2 53 := by simpa using notFull
      have canonical : significand < Nat.pow 2 53 ∧ scale ≤ 2045 ∧
          (Nat.pow 2 52 ≤ significand ∨ scale = 0) := by omega
      exact ⟨⟨negative, significand, scale, canonical⟩, dif_pos canonical, rfl, rfl⟩

theorem magnitude_le_of_scale_lt {number : Double} {scale : Nat} (finer : number.scale < scale) :
    number.magnitude ≤ Nat.pow 2 52 * Nat.pow 2 scale :=
  calc number.significand * Nat.pow 2 number.scale
      ≤ Nat.pow 2 53 * Nat.pow 2 number.scale :=
        Nat.mul_le_mul_right _ (Nat.le_of_lt number.canonical.1)
    _ = 2 ^ (53 + number.scale) := (Nat.pow_add ..).symm
    _ ≤ 2 ^ (52 + scale) := Nat.pow_le_pow_right (by decide) (by omega)
    _ = Nat.pow 2 52 * Nat.pow 2 scale := Nat.pow_add ..

theorem magnitude_eq_of_le_scale {number : Double} {scale : Nat} (coarser : scale ≤ number.scale) :
    number.magnitude =
      number.significand * Nat.pow 2 (number.scale - scale) * Nat.pow 2 scale := by
  have total : number.scale - scale + scale = number.scale := Nat.sub_add_cancel coarser
  have split : Nat.pow 2 (number.scale - scale) * Nat.pow 2 scale = Nat.pow 2 number.scale :=
    calc 2 ^ (number.scale - scale) * 2 ^ scale = 2 ^ (number.scale - scale + scale) :=
          (Nat.pow_add ..).symm
      _ = 2 ^ number.scale := by rw [total]
  rw [magnitude, Nat.mul_assoc, split]

/-- No double is nearer to a fraction than the grid point to which it is rounded: on a coarser grid
there are no other points, and on a finer one the doubles end below the fraction. -/
theorem dist_gridPoint_le (numerator : Nat) (positive : 0 < denominator) (other : Double) :
    let scale := scaleFor (numerator / denominator)
    Nat.dist (roundedQuotient numerator (denominator * Nat.pow 2 scale) *
        (denominator * Nat.pow 2 scale)) numerator ≤
      Nat.dist (other.magnitude * denominator) numerator := by
  intro scale
  have width : 0 < denominator * Nat.pow 2 scale := Nat.mul_pos positive (Nat.two_pow_pos scale)
  have nearest := dist_roundedQuotient_le numerator width
  have widened (count : Nat) : count * Nat.pow 2 scale * denominator =
      count * (denominator * Nat.pow 2 scale) := by
    rw [Nat.mul_assoc, Nat.mul_comm denominator]
  rcases Nat.lt_or_ge other.scale scale with finer | coarser
  · have scaled : scale ≠ 0 := by omega
    have least : Nat.pow 2 52 * (denominator * Nat.pow 2 scale) ≤ numerator :=
      calc Nat.pow 2 52 * (denominator * Nat.pow 2 scale)
          = Nat.pow 2 52 * Nat.pow 2 scale * denominator := (widened _).symm
        _ ≤ numerator / denominator * denominator :=
            Nat.mul_le_mul_right _ (two_pow_scaleFor_le scaled)
        _ ≤ numerator := Nat.div_mul_le_self numerator denominator
    have below : other.magnitude * denominator ≤
        Nat.pow 2 52 * (denominator * Nat.pow 2 scale) := by
      rw [← widened]
      exact Nat.mul_le_mul_right _ (magnitude_le_of_scale_lt finer)
    have first := nearest (Nat.pow 2 52)
    unfold Nat.dist at first ⊢
    omega
  · rw [magnitude_eq_of_le_scale coarser, widened]
    exact nearest _

/-- A fraction that is not too large is rounded to a double of its sign, and no double is nearer. -/
theorem ofStepQuotient?_nearest (negative : Bool) (positive : 0 < denominator)
    (small : scaleFor (numerator / denominator) ≤ 2044) :
    ∃ rounded, ofStepQuotient? negative numerator denominator = some rounded ∧
      rounded.negative = negative ∧
        ∀ other : Double, Nat.dist (rounded.magnitude * denominator) numerator ≤
          Nat.dist (other.magnitude * denominator) numerator := by
  obtain ⟨most, least⟩ := significand_bounds numerator denominator
  obtain ⟨rounded, found, sign, magnitude⟩ :=
    exists_double_of_significand negative most least small
  refine ⟨rounded, found, sign, fun other => ?_⟩
  have grid := dist_gridPoint_le numerator positive other
  rw [magnitude, Nat.mul_assoc, Nat.mul_comm (Nat.pow 2 _)]
  exact grid

theorem scaleFor_le {exponent : Nat} (small : quotient < 2 ^ (53 + exponent)) :
    scaleFor quotient ≤ exponent := by
  rw [scaleFor]
  split
  · exact Nat.zero_le exponent
  · next notZero =>
      have log : quotient.log2 < 53 + exponent :=
        (Nat.log2_lt (by simpa using notZero)).mpr small
      omega

/-- A multiple of a power of two is a number of steps if what is left has at most 53 bits. -/
theorem exists_magnitude_eq (negative : Bool) {significand exponent : Nat}
    (fits : significand < 2 ^ 53)
    (small : scaleFor (significand * 2 ^ exponent) ≤ 2044) :
    ∃ number : Double, number.negative = negative ∧
      number.magnitude = significand * 2 ^ exponent := by
  have bits : significand * 2 ^ exponent < 2 ^ (53 + exponent) := by
    rw [Nat.pow_add]
    exact Nat.mul_lt_mul_of_pos_right fits (Nat.two_pow_pos exponent)
  have coarse : scaleFor (significand * 2 ^ exponent) ≤ exponent := scaleFor_le bits
  have divides : 2 ^ scaleFor (significand * 2 ^ exponent) ∣ significand * 2 ^ exponent :=
    Nat.dvd_mul_left_of_dvd (Nat.pow_dvd_pow 2 coarse) significand
  obtain ⟨most, least⟩ := significand_bounds (significand * 2 ^ exponent) 1
  rw [Nat.div_one, Nat.one_mul] at most least
  obtain ⟨number, -, sign, magnitude⟩ :=
    exists_double_of_significand negative most least small
  refine ⟨number, sign, ?_⟩
  have exact : roundedQuotient (significand * 2 ^ exponent)
      (Nat.pow 2 (scaleFor (significand * 2 ^ exponent))) =
        significand * 2 ^ exponent / 2 ^ scaleFor (significand * 2 ^ exponent) := by
    have remainder := Nat.mod_eq_zero_of_dvd divides
    have positive := Nat.two_pow_pos (scaleFor (significand * 2 ^ exponent))
    rcases roundedQuotient_cases (significand * 2 ^ exponent)
      (Nat.pow 2 (scaleFor (significand * 2 ^ exponent))) with ⟨-, same⟩ | ⟨half, -⟩
    · exact same
    · rw [Nat.pow_eq] at half
      omega
  rw [magnitude, exact]
  exact Nat.div_mul_cancel divides

/-! ### Whole numbers -/

theorem scaleFor_whole_le {whole : Nat} (small : whole < 2 ^ 65) :
    scaleFor (whole * stepsPerUnit) ≤ 2044 := by
  have bound : whole * stepsPerUnit < 2 ^ (53 + (12 + 1074)) := by
    unfold stepsPerUnit
    generalize 1074 = exponent
    rw [← Nat.add_assoc, Nat.pow_add]
    exact Nat.mul_lt_mul_of_pos_right small (Nat.two_pow_pos exponent)
  exact Nat.le_trans (scaleFor_le bound) (by decide)

theorem ofFraction?_whole (negative : Bool) {whole : Nat} (small : whole < 2 ^ 65) :
    ∃ rounded, ofFraction? negative whole 1 = some rounded ∧ rounded.negative = negative ∧
      ∀ other : Double, Nat.dist rounded.magnitude (whole * stepsPerUnit) ≤
        Nat.dist other.magnitude (whole * stepsPerUnit) := by
  have inRange : scaleFor (whole * stepsPerUnit / 1) ≤ 2044 := by
    rw [Nat.div_one]
    exact scaleFor_whole_le small
  obtain ⟨rounded, found, sign, nearest⟩ := ofStepQuotient?_nearest negative Nat.one_pos inRange
  simp only [Nat.mul_one] at nearest
  exact ⟨rounded, found, sign, nearest⟩

/-- Signs put no two numbers nearer to each other. -/
theorem dist_le_natAbs_sub (number : Double) (value : Int) :
    Nat.dist number.magnitude value.natAbs ≤ (number.steps - value).natAbs := by
  unfold Nat.dist
  rw [← natAbs_steps]
  omega

theorem natAbs_sub_of_sign {whole : Nat} :
    (rounded.steps - (if rounded.negative then -(whole : Int) else whole)).natAbs =
      Nat.dist rounded.magnitude whole := by
  unfold Nat.dist
  rw [steps]
  split
  all_goals omega

theorem exists_significand_of_steps_eq {number : Double} {value : Int}
    (whole : number.steps = value * stepsPerUnit) :
    ∃ significand exponent, significand < 2 ^ 53 ∧ value.natAbs = significand * 2 ^ exponent := by
  have magnitude := magnitude_of_whole whole
  unfold Double.magnitude stepsPerUnit at magnitude
  generalize 1074 = unit at magnitude
  simp only [Nat.pow_eq] at magnitude
  rcases Nat.le_total unit number.scale with large | little
  · refine ⟨number.significand, number.scale - unit, number.canonical.1, ?_⟩
    apply Nat.eq_of_mul_eq_mul_right (Nat.two_pow_pos unit)
    rw [← magnitude, Nat.mul_assoc, ← Nat.pow_add, Nat.sub_add_cancel large]
  · have least : value.natAbs ≤ number.significand := by
      apply Nat.le_of_mul_le_mul_right (c := 2 ^ number.scale) _ (Nat.two_pow_pos _)
      rw [magnitude]
      exact Nat.mul_le_mul_left _ (Nat.pow_le_pow_right (by decide) little)
    exact ⟨value.natAbs, 0, Nat.lt_of_le_of_lt least number.canonical.1, by simp⟩

theorem exists_steps_eq {value : Int} {significand exponent : Nat}
    (small : value.natAbs < 2 ^ 65) (fits : significand < 2 ^ 53)
    (value_eq : value.natAbs = significand * 2 ^ exponent) :
    ∃ number : Double, number.steps = value * stepsPerUnit := by
  have inSteps : value.natAbs * stepsPerUnit = significand * 2 ^ (exponent + 1074) := by
    unfold stepsPerUnit
    generalize 1074 = unit
    rw [value_eq, Nat.pow_add, Nat.mul_assoc]
    rfl
  have inRange := scaleFor_whole_le small
  rw [inSteps] at inRange
  obtain ⟨number, sign, magnitude⟩ := exists_magnitude_eq (decide (value < 0)) fits inRange
  rw [← inSteps] at magnitude
  refine ⟨number, ?_⟩
  rw [steps, sign, magnitude, Int.natCast_mul]
  split
  · next negative =>
      have negative : value < 0 := of_decide_eq_true negative
      have same : -(value.natAbs : Int) = value := by omega
      rw [← Int.neg_mul, same]
  · next notNegative =>
      have notNegative : ¬ value < 0 := fun negative => notNegative (decide_eq_true negative)
      have same : (value.natAbs : Int) = value := by omega
      rw [same]

/-- The whole numbers among the doubles are those of at most 53 bits, and these scaled up. -/
theorem exists_steps_eq_iff {value : Int} (small : value.natAbs < 2 ^ 65) :
    (∃ number : Double, number.steps = value * stepsPerUnit) ↔
      ∃ significand exponent, significand < 2 ^ 53 ∧ value.natAbs = significand * 2 ^ exponent := by
  constructor
  · rintro ⟨number, whole⟩
    exact exists_significand_of_steps_eq whole
  · rintro ⟨significand, exponent, fits, value_eq⟩
    exact exists_steps_eq small fits value_eq

end Double

end PluginHost
