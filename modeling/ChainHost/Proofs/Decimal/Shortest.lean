import Mathlib.Data.Nat.Cast.Order.Field
import ChainHost.Decimal.Shortest
import ChainHost.Proofs.Decimal.Rounding

namespace ChainHost

-- The number that digits stand for.
def Decimal.toRat (d : Decimal) : ℚ :=
  d.digits * 10 ^ d.exponent

namespace Double
namespace Interval

variable {i : Interval} {d : Decimal} {exponent : ℤ}

theorem ten_zpow_of_nonneg (h : exponent ≥ 0) :
    (10 : ℚ) ^ exponent = (10 ^ exponent.toNat : ℕ) := by
  lift exponent to ℕ using h
  simp

theorem ten_zpow_of_neg (h : ¬exponent ≥ 0) :
    (10 : ℚ) ^ exponent = ((10 ^ (-exponent).toNat : ℕ) : ℚ)⁻¹ := by
  obtain ⟨n, rfl⟩ : ∃ n : ℕ, exponent = -n := ⟨(-exponent).toNat, by omega⟩
  simp

-- The numbers between the bounds, and the bounds if the interval is closed.
theorem contains_iff (hd : 0 < i.den) :
    i.contains d ↔ if i.closed then (i.low : ℚ) / i.den ≤ d.toRat ∧ d.toRat ≤ i.high / i.den
      else (i.low : ℚ) / i.den < d.toRat ∧ d.toRat < i.high / i.den := by
  have hd : (0 : ℚ) < i.den := by exact_mod_cast hd
  unfold contains Decimal.toRat
  rw [div_le_iff₀ hd, le_div_iff₀ hd, div_lt_iff₀ hd, lt_div_iff₀ hd]
  by_cases he : d.exponent ≥ 0
  case pos =>
    rw [ten_zpow_of_nonneg he]
    simp only [if_pos he, Nat.mul_one, Nat.pow_eq]
    split <;> simp only [Bool.and_eq_true, decide_eq_true_eq] <;> norm_cast
  case neg =>
    have hp : (0 : ℚ) < (10 ^ (-d.exponent).toNat : ℕ) := by positivity
    rw [ten_zpow_of_neg he, ← div_eq_mul_inv, div_mul_eq_mul_div, le_div_iff₀ hp, div_le_iff₀ hp,
      lt_div_iff₀ hp, div_lt_iff₀ hp]
    simp only [if_neg he, Nat.pow_eq]
    split <;> simp only [Bool.and_eq_true, decide_eq_true_eq] <;> norm_cast

theorem inUnits_eq (i : Interval) (exponent : ℤ) :
    ((i.inUnits exponent).1 : ℚ) / (i.inUnits exponent).2 = i.value / i.den / 10 ^ exponent := by
  unfold inUnits
  split
  case isTrue h =>
    rw [ten_zpow_of_nonneg h]
    simp [div_div]
  case isFalse h =>
    rw [ten_zpow_of_neg h]
    simp [div_eq_mul_inv, mul_right_comm]

theorem inUnits_snd_pos (hd : 0 < i.den) (exponent : ℤ) : 0 < (i.inUnits exponent).2 := by
  unfold inUnits
  split
  case isTrue  => exact Nat.mul_pos hd (Nat.pow_pos (by decide))
  case isFalse => exact hd

theorem contains_of_nearest? (h : i.nearest? exponent = some d) : i.contains d := by
  unfold nearest? at h
  dsimp only at h
  split at h
  case h_1 hf hc =>
    cases h
    split
    case isTrue  => exact hf
    case isFalse => exact hc
  case h_2 hf _ => cases h; exact hf
  case h_3 _ hc => cases h; exact hc
  case h_4      => cases h

-- A grid that is finer than the part of the interval above its value has a point in it.
theorem exists_nearest? (hd : 0 < i.den) (hl : i.low < i.value)
    (hg : (10 : ℚ) ^ exponent < i.high / i.den - i.value / i.den) :
    ∃ d, i.nearest? exponent = some d := by
  have hd' : (0 : ℚ) < i.den := by exact_mod_cast hd
  have hp := inUnits_snd_pos hd exponent
  have hu := inUnits_eq i exponent
  have hten : (0 : ℚ) < 10 ^ exponent := by positivity
  have hlow : (i.low : ℚ) / i.den < i.value / i.den := by gcongr
  have hc : i.contains ⟨(i.inUnits exponent).1 / (i.inUnits exponent).2 + 1, exponent⟩ := by
    generalize i.inUnits exponent = u at *
    have hp' : (0 : ℚ) < u.2 := by exact_mod_cast hp
    have hfloor : ((u.1 / u.2 : ℕ) : ℚ) * 10 ^ exponent ≤ i.value / i.den := by
      rw [← le_div_iff₀ hten, ← hu]
      exact Nat.cast_div_le
    have hceil : (i.value : ℚ) / i.den < ((u.1 / u.2 : ℕ) + 1) * 10 ^ exponent := by
      rw [← div_lt_iff₀ hten, ← hu, div_lt_iff₀ hp']
      exact_mod_cast Nat.lt_mul_of_div_lt (Nat.lt_succ_self _) hp
    have hlt : ((u.1 / u.2 : ℕ) + 1) * (10 : ℚ) ^ exponent < i.high / i.den := by linarith
    rw [contains_iff hd]
    simp only [Decimal.toRat, Nat.cast_add, Nat.cast_one]
    split
    case isTrue  => exact ⟨(hlow.trans hceil).le, hlt.le⟩
    case isFalse => exact ⟨hlow.trans hceil, hlt⟩
  unfold nearest?
  dsimp only
  rw [hc]
  split
  case h_1        => exact ⟨_, rfl⟩
  case h_2 h      => cases h
  case h_3        => exact ⟨_, rfl⟩
  case h_4 h      => cases h

-- The search ends with a point of the interval if one of the grids it tries has one.
theorem contains_searchGrids {fuel k : ℕ} (hk : k < fuel)
    (h : ∃ d, i.nearest? (exponent - k) = some d) : i.contains (searchGrids i fuel exponent) := by
  induction fuel generalizing exponent k
  case zero => exact absurd hk (Nat.not_lt_zero k)
  case succ fuel hi =>
    rw [searchGrids]
    cases hn : i.nearest? exponent
    case some => exact contains_of_nearest? hn
    case none =>
      cases k
      case zero =>
        obtain ⟨d, hd⟩ := h
        simp [hn] at hd
      case succ k =>
        refine hi (Nat.lt_of_succ_lt_succ hk) ?_
        rwa [sub_sub, add_comm, ← Nat.cast_succ]

theorem pow_pred_length_le {n : ℕ} (h : 0 < n) : 10 ^ ((Nat.toDigits 10 n).length - 1) ≤ n := by
  rcases Nat.eq_zero_or_pos ((Nat.toDigits 10 n).length - 1) with hz | hp
  case inl => rwa [hz]
  case inr =>
    by_contra hn
    have := (Nat.length_toDigits_le_iff (by decide) hp).2 (not_le.1 hn)
    omega

theorem lt_pow_length (n : ℕ) : n < 10 ^ (Nat.toDigits 10 n).length :=
  (Nat.length_toDigits_le_iff (by decide) Nat.length_toDigits_pos).1 le_rfl

-- The value has no fewer digits than its magnitude says.
theorem ten_zpow_magnitude_le (hd : 0 < i.den) (hv : 0 < i.value) :
    (10 : ℚ) ^ (i.magnitude - 1) ≤ i.value / i.den := by
  have hd' : (0 : ℚ) < i.den := by exact_mod_cast hd
  have hv' : (0 : ℚ) < i.value := by exact_mod_cast hv
  unfold magnitude
  dsimp only
  split
  case isTrue h =>
    have hlen : 0 < (Nat.toDigits 10 (i.value / i.den)).length := Nat.length_toDigits_pos
    calc (10 : ℚ) ^ (((Nat.toDigits 10 (i.value / i.den)).length : ℤ) - 1)
        = (10 ^ ((Nat.toDigits 10 (i.value / i.den)).length - 1) : ℕ) := by
          rw [← Nat.cast_pred hlen, zpow_natCast, Nat.cast_pow, Nat.cast_ofNat]
      _ ≤ (i.value / i.den : ℕ) := by exact_mod_cast pow_pred_length_le h
      _ ≤ i.value / i.den := Nat.cast_div_le
  case isFalse =>
    have hlt := lt_pow_length (i.den / i.value)
    generalize (Nat.toDigits 10 (i.den / i.value)).length = k at *
    rw [show -((k : ℤ) - 1) - 1 = -k by ring, zpow_neg, zpow_natCast, inv_le_comm₀ (by positivity)
      (by positivity), inv_div, div_le_iff₀ hv']
    exact_mod_cast (Nat.lt_mul_of_div_lt hlt hv).le

end Interval

section Bounds

variable {x : Double}

theorem two_zpow_quarter (e : ℤ) : (2 : ℚ) ^ e = 4 * 2 ^ (e - 2) := by
  rw [zpow_sub₀ two_ne_zero]
  norm_num
  ring

-- The interval is counted in quarters of the gap between doubles.
theorem interval_eq (hm : x.mantissa ≠ 0) :
    0 < x.interval.den ∧ (x.interval.low : ℚ) / x.interval.den = x.lower ∧
      (x.interval.value : ℚ) / x.interval.den = x.toRat ∧
      (x.interval.high : ℚ) / x.interval.den = x.upper := by
  have hone : 1 ≤ 4 * x.mantissa := by omega
  have htwo : 2 ≤ 4 * x.mantissa := by omega
  unfold interval lower toRat upper
  dsimp only
  rw [two_zpow_quarter x.exponent]
  generalize x.exponent - 2 = quarter
  by_cases hq : quarter ≥ 0
  case pos =>
    lift quarter to ℕ using hq
    simp only [if_pos (Int.natCast_nonneg quarter), Int.toNat_natCast, Nat.pow_eq, zpow_natCast]
    refine ⟨Nat.one_pos, ?low, ?value, ?high⟩
    case low   => split <;> push_cast [Nat.cast_sub hone, Nat.cast_sub htwo] <;> ring
    case value => split <;> push_cast <;> ring
    case high  => split <;> push_cast <;> ring
  case neg =>
    obtain ⟨n, rfl⟩ : ∃ n : ℕ, quarter = -n := ⟨(-quarter).toNat, by omega⟩
    simp only [if_neg hq, Int.neg_neg, Int.toNat_natCast, Nat.pow_eq, zpow_neg, zpow_natCast]
    refine ⟨Nat.two_pow_pos n, ?low, ?value, ?high⟩
    case low   => split <;> push_cast [Nat.cast_sub hone, Nat.cast_sub htwo] <;> ring
    case value => split <;> push_cast <;> ring
    case high  => split <;> push_cast <;> ring

theorem covers_of_contains {d : Decimal} (hm : x.mantissa ≠ 0) (h : x.interval.contains d) :
    x.Covers d.toRat := by
  obtain ⟨hd, hlow, -, hhigh⟩ := interval_eq hm
  have hclosed : x.interval.closed = (x.mantissa % 2 == 0) := by
    unfold interval
    dsimp only
    split <;> rfl
  rw [Interval.contains_iff hd, hlow, hhigh, hclosed] at h
  split at h
  case isTrue he  => exact ⟨h.1, h.2, fun _ => by simpa using he⟩
  case isFalse    => exact ⟨h.1.le, h.2.le, fun he => he.elim (absurd · h.1.ne') (absurd · h.2.ne)⟩

-- A mantissa has less than seventeen digits, so that nineteen places below its first one are finer
-- than the half of its last bit.
theorem ten_zpow_lt_half_gap (hx : x.Canonical) {magnitude : ℤ}
    (h : (10 : ℚ) ^ (magnitude - 1) ≤ x.toRat) :
    (10 : ℚ) ^ (magnitude - 18) < x.upper - x.toRat := by
  have hlimit : x.toRat < mantissaLimit * 2 ^ x.exponent :=
    mul_lt_mul_of_pos_right (by exact_mod_cast hx.mantissa_lt) (by positivity)
  have hgap : x.upper - x.toRat = 2 ^ x.exponent / 2 := by
    simp only [upper, toRat]
    ring
  have hpos : (0 : ℚ) < 2 ^ x.exponent := by positivity
  rw [hgap, show magnitude - 18 = magnitude - 1 - (17 : ℕ) by push_cast; ring,
    zpow_sub₀ (by norm_num), zpow_natCast]
  simp only [mantissaLimit] at hlimit
  norm_num at hlimit ⊢
  linarith

theorem toRat_dropZeros (fuel : ℕ) (d : Decimal) : (dropZeros fuel d).toRat = d.toRat := by
  induction fuel generalizing d
  case zero => rfl
  case succ fuel hi =>
    rw [dropZeros]
    split
    case isFalse => rfl
    case isTrue h =>
      obtain ⟨k, hk⟩ : ∃ k, d.digits = k * 10 := ⟨d.digits / 10, by omega⟩
      simp only [hi]
      simp only [Decimal.toRat, hk, Nat.mul_div_cancel k (show 0 < 10 by decide)]
      rw [zpow_add_one₀ (by norm_num)]
      push_cast
      ring

theorem covers_shortest (hx : x.Canonical) : x.Covers x.shortest.toRat := by
  unfold shortest
  split
  case isTrue h =>
    convert x.covers_toRat
    simp [Decimal.toRat, toRat, h]
  case isFalse hm =>
    obtain ⟨hd, hlow, hvalue, hhigh⟩ := interval_eq hm
    have hd' : (0 : ℚ) < x.interval.den := by exact_mod_cast hd
    have hl : x.interval.low < x.interval.value := by
      have := hlow ▸ hvalue ▸ x.lower_lt_toRat
      rw [div_lt_div_iff_of_pos_right hd'] at this
      exact_mod_cast this
    have hv : 0 < x.interval.value := Nat.zero_lt_of_lt hl
    have hmag := Interval.ten_zpow_magnitude_le hd hv
    rw [hvalue] at hmag
    dsimp only
    rw [toRat_dropZeros]
    apply covers_of_contains hm
    refine Interval.contains_searchGrids (k := 19) (by decide) (Interval.exists_nearest? hd hl ?_)
    rw [hvalue, hhigh]
    convert ten_zpow_lt_half_gap hx hmag using 2
    push_cast
    ring

-- The digits tell the double, up to its sign.
theorem eq_of_shortest_eq {y : Double} (hx : x.Canonical) (hy : y.Canonical)
    (hs : x.negative = y.negative) (h : x.shortest.toRat = y.shortest.toRat) : x = y := by
  refine Covers.unique hx hy hs ?_ (covers_shortest hx) (h ▸ covers_shortest hy)
  unfold Decimal.toRat
  positivity

end Bounds

section Digits

variable {i : Interval} {x : Double}

theorem Interval.digits_ne_zero {d : Decimal} (hd : 0 < i.den) (hl : 0 < i.low)
    (h : i.contains d) : d.digits ≠ 0 := by
  intro hz
  have hlow : (0 : ℚ) < i.low / i.den := div_pos (Nat.cast_pos.2 hl) (Nat.cast_pos.2 hd)
  have hzero : d.toRat = 0 := by simp [Decimal.toRat, hz]
  rw [contains_iff hd, hzero] at h
  split at h <;> linarith [h.1]

-- The last grid is fine enough for the value, whether its points lie in the interval or not.
theorem digits_searchGrids_ne_zero (hd : 0 < i.den) (hl : 0 < i.low) {fuel : ℕ} {exponent : ℤ}
    (h : (10 : ℚ) ^ (exponent - fuel) ≤ i.value / i.den) :
    (searchGrids i fuel exponent).digits ≠ 0 := by
  induction fuel generalizing exponent
  case zero =>
    have hp := Interval.inUnits_snd_pos hd exponent
    have hp' : (0 : ℚ) < (i.inUnits exponent).2 := by exact_mod_cast hp
    have hten : (0 : ℚ) < 10 ^ exponent := by positivity
    rw [Nat.cast_zero, sub_zero, ← one_le_div hten, ← Interval.inUnits_eq, one_le_div hp'] at h
    rw [searchGrids]
    exact (Nat.div_pos (by exact_mod_cast h) hp).ne'
  case succ fuel hi =>
    rw [searchGrids]
    cases hn : i.nearest? exponent
    case some => exact Interval.digits_ne_zero hd hl (Interval.contains_of_nearest? hn)
    case none => exact hi (by rwa [sub_sub, add_comm (1 : ℤ), ← Nat.cast_succ])

theorem digits_dropZeros_ne_zero {d : Decimal} (fuel : ℕ) (h : d.digits ≠ 0) :
    (dropZeros fuel d).digits ≠ 0 := by
  intro hz
  have hr := toRat_dropZeros fuel d
  rw [Decimal.toRat, hz, Nat.cast_zero, zero_mul, Decimal.toRat, eq_comm, mul_eq_zero] at hr
  exact hr.elim (by exact_mod_cast h) (zpow_ne_zero _ (by norm_num))

-- Zero is written as zero itself.
theorem exponent_shortest_eq_zero (h : x.shortest.digits = 0) : x.shortest.exponent = 0 := by
  unfold shortest at h ⊢
  split at h
  case isTrue hm => rw [if_pos hm]
  case isFalse hm =>
    obtain ⟨hd, hlow, hvalue, -⟩ := interval_eq hm
    have hd' : (0 : ℚ) < x.interval.den := Nat.cast_pos.2 hd
    have hl := lower_pos hm
    have hv := hl.trans x.lower_lt_toRat
    rw [← hlow, div_pos_iff_of_pos_right hd', Nat.cast_pos] at hl
    rw [← hvalue, div_pos_iff_of_pos_right hd', Nat.cast_pos] at hv
    refine absurd h (digits_dropZeros_ne_zero 20 (digits_searchGrids_ne_zero hd hl ?_))
    refine le_trans ?_ (Interval.ten_zpow_magnitude_le hd hv)
    exact zpow_le_zpow_right₀ (by norm_num) (by omega)

end Digits
end Double
end ChainHost
