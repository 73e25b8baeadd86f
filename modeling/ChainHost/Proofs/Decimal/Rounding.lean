import Mathlib.Algebra.Order.Field.Power
import Mathlib.Data.Rat.Cast.Order
import Mathlib.Tactic.FieldSimp
import Mathlib.Tactic.Linarith
import Mathlib.Tactic.Positivity
import Mathlib.Tactic.Ring
import ChainHost.Decimal.Double

namespace ChainHost.Double

section Values

-- The absolute value.
def toRat (x : Double) : ℚ :=
  x.mantissa * 2 ^ x.exponent

-- The midpoint to the double below. Under a power of two the gap is half the one above it.
def lower (x : Double) : ℚ :=
  (x.mantissa - if x.mantissa = normalMantissa ∧ minExponent < x.exponent then 1 / 4 else 1 / 2) *
    2 ^ x.exponent

-- The midpoint to the double above.
def upper (x : Double) : ℚ :=
  (x.mantissa + 1 / 2) * 2 ^ x.exponent

-- The numbers to which a double is the nearest. A midpoint belongs to the even mantissa.
structure Covers (x : Double) (r : ℚ) : Prop where
  lower_le : x.lower ≤ r
  le_upper : r ≤ x.upper
  even     : r = x.lower ∨ r = x.upper → x.mantissa % 2 = 0

theorem lower_lt_toRat (x : Double) : x.lower < x.toRat := by
  refine mul_lt_mul_of_pos_right ?_ (by positivity)
  split <;> linarith

theorem toRat_lt_upper (x : Double) : x.toRat < x.upper :=
  mul_lt_mul_of_pos_right (by linarith) (by positivity)

theorem lower_pos {x : Double} (h : x.mantissa ≠ 0) : 0 < x.lower := by
  have h : (1 : ℚ) ≤ x.mantissa := by exact_mod_cast Nat.one_le_iff_ne_zero.2 h
  refine mul_pos ?_ (by positivity)
  split <;> linarith

theorem covers_toRat (x : Double) : x.Covers x.toRat where
  lower_le := x.lower_lt_toRat.le
  le_upper := x.toRat_lt_upper.le
  even     := by
    rintro (h | h)
    case inl => exact absurd h x.lower_lt_toRat.ne'
    case inr => exact absurd h x.toRat_lt_upper.ne

theorem ratio_snd_pos (x : Double) : 0 < x.ratio.2 := by
  unfold ratio
  split <;> simp

theorem ratio_eq_toRat (x : Double) : (x.ratio.1 : ℚ) / x.ratio.2 = x.toRat := by
  unfold ratio toRat
  split
  case isTrue h =>
    lift x.exponent to ℕ using h with n
    simp
  case isFalse h =>
    obtain ⟨n, hn⟩ : ∃ n : ℕ, x.exponent = -n := ⟨(-x.exponent).toNat, by omega⟩
    simp [hn, div_eq_mul_inv]

end Values

section Quotients

-- A number that is at most a half away, and even if it is just a half.
structure IsNearest (t : ℚ) (m : ℕ) : Prop where
  low  : m - 1 / 2 ≤ t
  high : t ≤ m + 1 / 2
  even : t = m - 1 / 2 ∨ t = m + 1 / 2 → m % 2 = 0

theorem IsNearest.unique {t : ℚ} {m m' : ℕ} (h : IsNearest t m) (h' : IsNearest t m') : m = m' := by
  by_contra hne
  wlog hlt : m < m' generalizing m m'
  case inr => exact this h' h (Ne.symm hne) (lt_of_le_of_ne (Nat.not_lt.1 hlt) (Ne.symm hne))
  have hle : (m' : ℚ) ≤ (m + 1 : ℕ) := by
    push_cast
    linarith [h.high, h'.low]
  obtain rfl : m' = m + 1 := le_antisymm (by exact_mod_cast hle) hlt
  have hlow := h'.low
  have heven := h'.even
  push_cast at hlow heven
  have ht : t = m + 1 / 2 := le_antisymm h.high (by linarith)
  have hm := h.even (.inr ht)
  have hm' := heven (.inl (by linarith))
  omega

variable {d : ℕ}

theorem roundDiv_bounds (n : ℕ) (hd : 0 < d) :
    2 * (roundDiv n d * d) ≤ 2 * n + d ∧ 2 * n ≤ 2 * (roundDiv n d * d) + d ∧
      (2 * (roundDiv n d * d) = 2 * n + d ∨ 2 * n = 2 * (roundDiv n d * d) + d →
        roundDiv n d % 2 = 0) := by
  have hn := Nat.div_add_mod n d
  have hr := Nat.mod_lt n hd
  have hc := Nat.mul_comm d (n / d)
  simp only [roundDiv]
  split
  case isTrue h =>
    simp only [Bool.or_eq_true, Bool.and_eq_true, decide_eq_true_eq, beq_iff_eq] at h
    rw [Nat.add_mul]
    omega
  case isFalse h =>
    simp only [Bool.or_eq_true, Bool.and_eq_true, decide_eq_true_eq, beq_iff_eq] at h
    omega

theorem isNearest_roundDiv (n : ℕ) (hd : 0 < d) : IsNearest ((n : ℚ) / d) (roundDiv n d) := by
  obtain ⟨hl, hu, he⟩ := roundDiv_bounds n hd
  generalize roundDiv n d = m at *
  have hd : (0 : ℚ) < d := by exact_mod_cast hd
  have hl : (2 : ℚ) * (m * d) ≤ 2 * n + d := by exact_mod_cast hl
  have hu : (2 : ℚ) * n ≤ 2 * (m * d) + d := by exact_mod_cast hu
  refine ⟨?low, ?high, ?even⟩
  case low  => rw [le_div_iff₀ hd]; linarith
  case high => rw [div_le_iff₀ hd]; linarith
  case even =>
    rw [div_eq_iff hd.ne', div_eq_iff hd.ne']
    rintro (h | h)
    case inl =>
      have h : (2 : ℚ) * (m * d) = 2 * n + d := by linarith
      exact he (.inl (by exact_mod_cast h))
    case inr =>
      have h : (2 : ℚ) * n = 2 * (m * d) + d := by linarith
      exact he (.inr (by exact_mod_cast h))

end Quotients

section Exponents

variable {num den : ℕ} {r : ℚ} {e e' : ℤ}

-- The exponent at which a number has a mantissa of 53 bits, or else the least one.
structure FitsAt (r : ℚ) (e : ℤ) : Prop where
  minExponent_le : minExponent ≤ e
  lt             : r < mantissaLimit * 2 ^ e
  normal         : normalMantissa * 2 ^ e ≤ r ∨ e = minExponent

theorem mantissaLimit_eq : (mantissaLimit : ℚ) = 2 ^ (53 : ℤ) := by
  norm_num [mantissaLimit]

theorem normalMantissa_eq : (normalMantissa : ℚ) = 2 ^ (52 : ℤ) := by
  norm_num [normalMantissa]

theorem normalMantissa_even : normalMantissa % 2 = 0 := by
  decide

theorem two_zpow_add (a b : ℤ) : (2 : ℚ) ^ (a + b) = 2 ^ a * 2 ^ b :=
  zpow_add₀ two_ne_zero a b

theorem two_zpow_lt_iff {a b : ℤ} : (2 : ℚ) ^ a < 2 ^ b ↔ a < b :=
  zpow_lt_zpow_iff_right₀ one_lt_two

theorem two_zpow_le_iff {a b : ℤ} : (2 : ℚ) ^ a ≤ 2 ^ b ↔ a ≤ b :=
  zpow_le_zpow_iff_right₀ one_lt_two

theorem FitsAt.le (h : FitsAt r e) (h' : FitsAt r e') : e ≤ e' := by
  rcases h.normal with hn | rfl
  case inr => exact h'.minExponent_le
  case inl =>
    have hlt := hn.trans_lt h'.lt
    rw [normalMantissa_eq, mantissaLimit_eq, ← two_zpow_add, ← two_zpow_add, two_zpow_lt_iff] at hlt
    omega

theorem FitsAt.unique (h : FitsAt r e) (h' : FitsAt r e') : e = e' :=
  le_antisymm (h.le h') (h'.le h)

theorem scaled_snd_pos (num : ℕ) (hd : 0 < den) (e : ℤ) : 0 < (scaled num den e).2 := by
  unfold scaled
  split
  case isTrue  => exact Nat.mul_pos hd (Nat.pow_pos two_pos)
  case isFalse => exact hd

theorem scaled_eq_div (num den : ℕ) (e : ℤ) :
    ((scaled num den e).1 : ℚ) / (scaled num den e).2 = (num : ℚ) / den / 2 ^ e := by
  unfold scaled
  split
  case isTrue h =>
    lift e to ℕ using h
    simp [div_div]
  case isFalse h =>
    obtain ⟨n, rfl⟩ : ∃ n : ℕ, e = -n := ⟨(-e).toNat, by omega⟩
    simp [div_eq_mul_inv, mul_right_comm]

-- The bits of numerator and denominator tell the size of a quotient up to a factor of two.
theorem lt_ratio (hn : 0 < num) (hd : 0 < den) :
    (2 : ℚ) ^ ((num.log2 : ℤ) - den.log2 - 1) < (num : ℚ) / den ∧
      (num : ℚ) / den < 2 ^ ((num.log2 : ℤ) - den.log2 + 1) := by
  have hnl : (2 : ℚ) ^ (num.log2 : ℤ) ≤ num := by
    exact_mod_cast Nat.log2_self_le hn.ne'
  have hnu : (num : ℚ) < 2 ^ ((num.log2 : ℤ) + 1) := by
    exact_mod_cast Nat.lt_log2_self (n := num)
  have hdl : (2 : ℚ) ^ (den.log2 : ℤ) ≤ den := by
    exact_mod_cast Nat.log2_self_le hd.ne'
  have hdu : (den : ℚ) < 2 ^ ((den.log2 : ℤ) + 1) := by
    exact_mod_cast Nat.lt_log2_self (n := den)
  have hd : (0 : ℚ) < den := by exact_mod_cast hd
  constructor
  case left =>
    rw [lt_div_iff₀ hd]
    calc (2 : ℚ) ^ ((num.log2 : ℤ) - den.log2 - 1) * den
        < 2 ^ ((num.log2 : ℤ) - den.log2 - 1) * 2 ^ ((den.log2 : ℤ) + 1) := by gcongr
      _ = 2 ^ (num.log2 : ℤ) := by rw [← two_zpow_add]; congr 1; ring
      _ ≤ num := hnl
  case right =>
    rw [div_lt_iff₀ hd]
    calc (num : ℚ)
        < 2 ^ ((num.log2 : ℤ) + 1) := hnu
      _ = 2 ^ ((num.log2 : ℤ) - den.log2 + 1) * 2 ^ (den.log2 : ℤ) := by
        rw [← two_zpow_add]; congr 1; ring
      _ ≤ 2 ^ ((num.log2 : ℤ) - den.log2 + 1) * den := by gcongr

-- Whether the floor of a scaled quotient has more than 53 bits.
theorem limit_le_scaled_div_iff (num : ℕ) (hd : 0 < den) (e : ℤ) :
    mantissaLimit ≤ (scaled num den e).1 / (scaled num den e).2 ↔
      mantissaLimit * 2 ^ e ≤ (num : ℚ) / den := by
  have hp := scaled_snd_pos num hd e
  have hp' : (0 : ℚ) < (scaled num den e).2 := by exact_mod_cast hp
  rw [Nat.le_div_iff_mul_le hp, ← le_div_iff₀ (by positivity : (0 : ℚ) < 2 ^ e), ← scaled_eq_div,
    le_div_iff₀ hp']
  exact_mod_cast Iff.rfl

theorem exponentFor_fits (hn : 0 < num) (hd : 0 < den) :
    FitsAt ((num : ℚ) / den) (exponentFor num den) := by
  obtain ⟨hlow, hhigh⟩ := lt_ratio hn hd
  have hlimit := limit_le_scaled_div_iff num hd
  simp only [exponentFor, ge_iff_le]
  generalize hg : max ((num.log2 : ℤ) - den.log2 - 53) minExponent = guess
  have hmin : minExponent ≤ guess := hg ▸ le_max_right _ _
  have hguess : (num.log2 : ℤ) - den.log2 - 53 ≤ guess := hg ▸ le_max_left _ _
  split
  case isTrue h =>
    have h := (hlimit guess).1 h
    refine ⟨by omega, hhigh.trans_le ?_, .inl ?_⟩
    · rw [mantissaLimit_eq, ← two_zpow_add, two_zpow_le_iff]
      omega
    · rw [normalMantissa_eq, ← two_zpow_add]
      rw [mantissaLimit_eq, ← two_zpow_add] at h
      convert h using 2
      ring
  case isFalse h =>
    have h := not_le.1 (mt (hlimit guess).2 h)
    refine ⟨hmin, h, ?_⟩
    rcases max_choice ((num.log2 : ℤ) - den.log2 - 53) minExponent with hc | hc
    case inr => exact .inr (hg ▸ hc)
    case inl =>
      left
      rw [normalMantissa_eq, ← two_zpow_add]
      refine (two_zpow_le_iff.2 ?_).trans hlow.le
      omega

end Exponents

section Nearest

variable {x y : Double} {num den : ℕ} {r : ℚ}

-- A double whose mantissa fits at the exponent of a number that it covers.
theorem Covers.roundDiv_eq (h : x.Covers r) (hd : 0 < den)
    (hr : (num : ℚ) / den * 2 ^ x.exponent = r) : roundDiv num den = x.mantissa := by
  have hp : (0 : ℚ) < 2 ^ x.exponent := by positivity
  obtain ⟨hl, hu, he⟩ := h
  rw [← hr] at hl hu he
  have hu := le_of_mul_le_mul_right hu hp
  have hl := le_of_mul_le_mul_right hl hp
  rw [lower, upper, mul_left_inj' hp.ne', mul_left_inj' hp.ne'] at he
  refine (isNearest_roundDiv num hd).unique ⟨?_, hu, fun ht => ?_⟩
  case refine_1 => split at hl <;> linarith
  case refine_2 =>
    rcases ht with ht | ht
    case inr => exact he (.inr ht)
    case inl =>
      split at he
      case isTrue hm  => rw [hm.1]; exact normalMantissa_even
      case isFalse hm => exact he (.inl ht)

theorem Covers.lt_limit (h : x.Covers r) (hx : x.Canonical) :
    r < mantissaLimit * 2 ^ x.exponent := by
  refine h.le_upper.trans_lt (mul_lt_mul_of_pos_right ?_ (by positivity))
  have : (x.mantissa : ℚ) + 1 ≤ mantissaLimit := by exact_mod_cast hx.mantissa_lt
  linarith

-- A double covers some numbers under a power of two that have an exponent less.
theorem Covers.fitsAt (h : x.Covers r) (hx : x.Canonical) :
    FitsAt r x.exponent ∨ x.mantissa = normalMantissa ∧ FitsAt r (x.exponent - 1) ∧
      (mantissaLimit - 1 / 2) * 2 ^ (x.exponent - 1) ≤ r ∧
        r < mantissaLimit * 2 ^ (x.exponent - 1) := by
  by_cases hn : normalMantissa * 2 ^ x.exponent ≤ r ∨ x.exponent = minExponent
  case pos => exact .inl ⟨hx.minExponent_le, h.lt_limit hx, hn⟩
  case neg =>
    obtain ⟨hr, he⟩ := not_or.1 hn
    have hr := not_le.1 hr
    have hmin := lt_of_le_of_ne hx.minExponent_le (Ne.symm he)
    have hnormal : normalMantissa ≤ x.mantissa := hx.normal.resolve_right he
    have hlow := lt_of_mul_lt_mul_right (h.lower_le.trans_lt hr) (by positivity)
    have hm : x.mantissa = normalMantissa := by
      refine le_antisymm (Nat.lt_succ_iff.1 ?_) hnormal
      have : (x.mantissa : ℚ) < normalMantissa + 1 := by split at hlow <;> linarith
      exact_mod_cast this
    have htwo : (2 : ℚ) ^ x.exponent = 2 * 2 ^ (x.exponent - 1) := by
      rw [← zpow_one_add₀ two_ne_zero, add_sub_cancel]
    have hlimit : (mantissaLimit : ℚ) = 2 * normalMantissa := by
      norm_num [mantissaLimit, normalMantissa]
    have hle : (mantissaLimit - 1 / 2) * 2 ^ (x.exponent - 1) ≤ r := by
      refine le_trans (le_of_eq ?_) h.lower_le
      rw [lower, if_pos ⟨hm, hmin⟩, hm, htwo, hlimit]
      ring
    have hlt : r < mantissaLimit * 2 ^ (x.exponent - 1) := by
      refine hr.trans_le (le_of_eq ?_)
      rw [htwo, hlimit]
      ring
    refine .inr ⟨hm, ⟨by omega, hlt, .inl (le_trans ?_ hle)⟩, hle, hlt⟩
    gcongr
    norm_num [mantissaLimit, normalMantissa]

theorem scaled_mul (num den : ℕ) (e : ℤ) :
    ((scaled num den e).1 : ℚ) / (scaled num den e).2 * 2 ^ e = (num : ℚ) / den := by
  rw [scaled_eq_div, div_mul_cancel₀ _ (by positivity)]

-- A double is what every number that it covers is rounded to.
theorem ofRatio?_eq_some (hx : x.Canonical) (hd : 0 < den) (h : x.Covers ((num : ℚ) / den)) :
    ofRatio? x.negative num den = some x := by
  unfold ofRatio?
  rcases Nat.eq_zero_or_pos num with rfl | hn
  case inl =>
    have hm : x.mantissa = 0 := by
      by_contra hm
      exact absurd h.lower_le (not_le.2 (by simpa using lower_pos hm))
    have he : x.exponent = minExponent := hx.normal.resolve_left (by simp [hm, normalMantissa])
    obtain ⟨negative, mantissa, exponent⟩ := x
    cases hm
    cases he
    rfl
  case inr =>
    have hfit := exponentFor_fits hn hd
    have hs := scaled_mul num den (exponentFor num den)
    have hp := scaled_snd_pos num hd (exponentFor num den)
    rw [if_neg hn.ne']
    rcases h.fitsAt hx with hf | ⟨hm, hf, hle, hlt⟩
    case inl =>
      rw [hfit.unique hf] at hs hp ⊢
      dsimp only
      rw [h.roundDiv_eq hp hs, if_neg (not_le.2 hx.mantissa_lt)]
      exact if_neg (not_lt.2 hx.exponent_le)
    case inr =>
      rw [hfit.unique hf] at hs hp ⊢
      have hpow : (0 : ℚ) < 2 ^ (x.exponent - 1) := by positivity
      rw [← hs] at hle hlt
      have hle := le_of_mul_le_mul_right hle hpow
      have hlt := lt_of_mul_lt_mul_right hlt hpow.le
      have hnearest := (isNearest_roundDiv _ hp).unique ⟨hle, by linarith, fun _ => by decide⟩
      dsimp only
      rw [hnearest, if_pos le_rfl, sub_add_cancel, ← hm]
      exact if_neg (not_lt.2 hx.exponent_le)

-- Different doubles of one sign cover no number together.
theorem Covers.unique (hx : x.Canonical) (hy : y.Canonical) (hs : x.negative = y.negative)
    (hr : 0 ≤ r) (h : x.Covers r) (h' : y.Covers r) : x = y := by
  have hnum : ((r.num.toNat : ℕ) : ℚ) = r.num := by
    exact_mod_cast Int.toNat_of_nonneg (Rat.num_nonneg.2 hr)
  have hdiv : ((r.num.toNat : ℕ) : ℚ) / r.den = r := by rw [hnum, Rat.num_div_den]
  have hx := ofRatio?_eq_some hx r.den_pos (hdiv.symm ▸ h)
  rw [hs, ofRatio?_eq_some hy r.den_pos (hdiv.symm ▸ h')] at hx
  exact (Option.some.inj hx).symm

end Nearest

section Outcomes

variable {x y : Double} {num den : ℕ} {r : ℚ} {e : ℤ} {negative : Bool}

-- A mantissa to which a number is rounded, before one of 54 bits is shortened.
structure RoundsTo (r : ℚ) (e : ℤ) (m : ℕ) : Prop where
  fits   : FitsAt r e
  low    : (m - 1 / 2) * 2 ^ e ≤ r
  high   : r ≤ (m + 1 / 2) * 2 ^ e
  even   : r = (m - 1 / 2) * 2 ^ e ∨ r = (m + 1 / 2) * 2 ^ e → m % 2 = 0
  le     : m ≤ mantissaLimit
  normal : normalMantissa ≤ m ∨ e = minExponent

theorem FitsAt.roundsTo (hf : FitsAt ((num : ℚ) / den) e) (hd : 0 < den) :
    RoundsTo ((num : ℚ) / den) e (roundDiv (scaled num den e).1 (scaled num den e).2) := by
  obtain ⟨hl, hu, he⟩ := isNearest_roundDiv (scaled num den e).1 (scaled_snd_pos num hd e)
  have hs := scaled_mul num den e
  generalize roundDiv _ _ = m at *
  generalize ((scaled num den e).1 : ℚ) / (scaled num den e).2 = t at *
  have hpow : (0 : ℚ) < 2 ^ e := by positivity
  obtain ⟨hmin, hlt, hnormal⟩ := hf
  rw [← hs] at *
  have hlt := lt_of_mul_lt_mul_right hlt hpow.le
  refine ⟨⟨hmin, by gcongr, hnormal⟩, by gcongr, by gcongr, ?even, ?le, ?normal⟩
  case even => rwa [mul_left_inj' hpow.ne', mul_left_inj' hpow.ne']
  case le =>
    have : (m : ℚ) < mantissaLimit + 1 := by linarith
    exact Nat.lt_succ_iff.1 (by exact_mod_cast this)
  case normal =>
    refine hnormal.imp_left fun h => ?_
    have h := le_of_mul_le_mul_right h hpow
    have : (normalMantissa : ℚ) < m + 1 := by linarith
    exact Nat.lt_succ_iff.1 (by exact_mod_cast this)

theorem exists_roundsTo (hn : 0 < num) (hd : 0 < den) (h : ofRatio? negative num den = some x) :
    x.exponent ≤ maxExponent ∧ ∃ e m, RoundsTo ((num : ℚ) / den) e m ∧
      (m < mantissaLimit ∧ x = ⟨negative, m, e⟩ ∨
        m = mantissaLimit ∧ x = ⟨negative, normalMantissa, e + 1⟩) := by
  have hr := (exponentFor_fits hn hd).roundsTo hd
  unfold ofRatio? at h
  rw [if_neg hn.ne'] at h
  dsimp only at h
  generalize roundDiv _ _ = m at *
  generalize exponentFor num den = e at *
  have hle := hr.le
  refine ⟨?_, e, m, hr, ?_⟩ <;> grind

-- What a number is rounded to covers it.
theorem RoundsTo.covers {m : ℕ} (h : RoundsTo r e m) : Covers ⟨negative, m, e⟩ r := by
  have hpow : (0 : ℚ) < 2 ^ e := by positivity
  by_cases hm : m = normalMantissa ∧ minExponent < e
  case pos =>
    obtain ⟨rfl, hmin⟩ := hm
    have hn : normalMantissa * 2 ^ e ≤ r := h.fits.normal.resolve_right hmin.ne'
    refine ⟨?_, h.high, fun _ => normalMantissa_even⟩
    rw [lower, if_pos ⟨rfl, hmin⟩]
    linarith
  case neg =>
    refine ⟨?_, h.high, fun he => h.even ?_⟩
    case refine_1 => rw [lower, if_neg hm]; exact h.low
    case refine_2 => rwa [lower, if_neg hm] at he

theorem RoundsTo.covers_limit (h : RoundsTo r e mantissaLimit) :
    Covers ⟨negative, normalMantissa, e + 1⟩ r := by
  have htwo : (2 : ℚ) ^ (e + 1) = 2 ^ e * 2 := zpow_add_one₀ two_ne_zero e
  have hlimit : (mantissaLimit : ℚ) = 2 * normalMantissa := by
    norm_num [mantissaLimit, normalMantissa]
  have hpow : (0 : ℚ) < 2 ^ e := by positivity
  have hlow := h.low
  have hlt := h.fits.lt
  rw [hlimit] at hlow hlt
  refine ⟨?_, ?_, fun _ => normalMantissa_even⟩
  case refine_1 =>
    rw [lower, if_pos ⟨rfl, Int.lt_add_one_of_le h.fits.minExponent_le⟩, htwo]
    linarith
  case refine_2 =>
    rw [upper, htwo]
    linarith

theorem canonical_zero : zero.Canonical :=
  ⟨Nat.two_pow_pos 53, le_rfl, by decide, .inr rfl⟩

theorem Canonical.congr (h : x.Canonical) (hm : x.mantissa = y.mantissa)
    (he : x.exponent = y.exponent) : y.Canonical := by
  obtain ⟨hl, hmin, hmax, hn⟩ := h
  rw [hm, he] at *
  exact ⟨hl, hmin, hmax, hn⟩

-- Rounding finds the double that covers a number, if there is one.
theorem ofRatio?_eq_some_iff (hd : 0 < den) : ofRatio? negative num den = some x ↔
    x.negative = negative ∧ x.Canonical ∧ x.Covers ((num : ℚ) / den) := by
  constructor
  case mpr =>
    rintro ⟨rfl, hx, h⟩
    exact ofRatio?_eq_some hx hd h
  case mp =>
    intro h
    rcases Nat.eq_zero_or_pos num with rfl | hn
    case inl =>
      cases h
      refine ⟨rfl, canonical_zero.congr rfl rfl, ?_⟩
      simpa [toRat, zero] using covers_toRat { zero with negative }
    case inr =>
      obtain ⟨hmax, e, m, hr, ⟨hm, rfl⟩ | ⟨rfl, rfl⟩⟩ := exists_roundsTo hn hd h
      case inl => exact ⟨rfl, ⟨hm, hr.fits.minExponent_le, hmax, hr.normal⟩, hr.covers⟩
      case inr =>
        have hm : normalMantissa < mantissaLimit := by simp [mantissaLimit, normalMantissa]
        exact ⟨rfl, ⟨hm, Int.le_add_one hr.fits.minExponent_le, hmax, .inl le_rfl⟩, hr.covers_limit⟩

end Outcomes

section Operations

variable {x y z : Double} {n : ℕ}

theorem ratio_fst_pos (h : 0 < y.toRat) : 0 < y.ratio.1 := by
  have hd : (0 : ℚ) < y.ratio.2 := by exact_mod_cast y.ratio_snd_pos
  rw [← ratio_eq_toRat, div_pos_iff_of_pos_right hd] at h
  exact_mod_cast h

theorem ofNat?_eq_some_iff :
    ofNat? n = some x ↔ x.negative = false ∧ x.Canonical ∧ x.Covers n := by
  rw [ofNat?, ofRatio?_eq_some_iff one_pos, Nat.cast_one, div_one]

theorem mul?_eq_some_iff : x.mul? y = some z ↔
    z.negative = (x.negative != y.negative) ∧ z.Canonical ∧ z.Covers (x.toRat * y.toRat) := by
  rw [mul?, ofRatio?_eq_some_iff (Nat.mul_pos x.ratio_snd_pos y.ratio_snd_pos), Nat.cast_mul,
    Nat.cast_mul, mul_div_mul_comm, ratio_eq_toRat, ratio_eq_toRat]

theorem div?_eq_some_iff (hy : 0 < y.toRat) : x.div? y = some z ↔
    z.negative = (x.negative != y.negative) ∧ z.Canonical ∧ z.Covers (x.toRat / y.toRat) := by
  rw [div?, ofRatio?_eq_some_iff (Nat.mul_pos x.ratio_snd_pos (ratio_fst_pos hy)), Nat.cast_mul,
    Nat.cast_mul, mul_div_mul_comm, ratio_eq_toRat, ← inv_div, ratio_eq_toRat, ← div_eq_mul_inv]

-- A power of ten is not rounded to zero.
theorem toRat_pos_of_powerOfTen? (h : powerOfTen? n = some x) : 0 < x.toRat := by
  obtain ⟨-, hx, hc⟩ := ofNat?_eq_some_iff.1 h
  have hone : (1 : ℚ) ≤ (Nat.pow 10 n : ℕ) := by exact_mod_cast Nat.one_le_pow n 10 (by decide)
  refine mul_pos (Nat.cast_pos.2 (Nat.pos_of_ne_zero fun hm => ?_)) (by positivity)
  have he : x.exponent = minExponent := hx.normal.resolve_left (by simp [hm, normalMantissa])
  have hhalf : x.upper ≤ 1 / 2 := by
    rw [upper, hm, he, Nat.cast_zero, zero_add]
    exact mul_le_of_le_one_right (by norm_num) (zpow_le_one_of_nonpos₀ one_le_two (by decide))
  linarith [hc.le_upper]

end Operations

section Exact

variable {n k : ℕ}

-- A natural number that is a double.
def Exact (n : ℕ) : Prop :=
  ∃ x : Double, x.Canonical ∧ x.negative = false ∧ x.toRat = n

theorem Exact.ofNat?_eq_some (h : Exact n) :
    ∃ x, ofNat? n = some x ∧ x.negative = false ∧ x.toRat = n := by
  obtain ⟨x, hx, hs, hn⟩ := h
  exact ⟨x, ofNat?_eq_some_iff.2 ⟨hs, hx, hn ▸ x.covers_toRat⟩, hs, hn⟩

-- Numbers of 53 bits with zeros behind them.
theorem exact_mul_two_pow (hn : n < mantissaLimit) (hk : (k : ℤ) ≤ maxExponent) :
    Exact (n * 2 ^ k) := by
  rcases Nat.eq_zero_or_pos n with rfl | hpos
  case inl => exact ⟨zero, canonical_zero, rfl, by simp [zero, toRat]⟩
  case inr =>
    have hlog : n.log2 < 53 := (Nat.log2_lt hpos.ne').2 hn
    have hlow := Nat.log2_self_le hpos.ne'
    have hhigh := Nat.lt_log2_self (n := n)
    have hadd : n.log2 + (52 - n.log2) = 52 := by omega
    have hp : 0 < 2 ^ (52 - n.log2) := Nat.two_pow_pos _
    refine ⟨⟨false, n * 2 ^ (52 - n.log2), k - (52 - n.log2 : ℕ)⟩, ⟨?_, ?_, ?_, .inl ?_⟩, rfl, ?_⟩
    · calc n * 2 ^ (52 - n.log2) < 2 ^ (n.log2 + 1) * 2 ^ (52 - n.log2) :=
            Nat.mul_lt_mul_of_pos_right hhigh hp
        _ = mantissaLimit := by rw [← Nat.pow_add, Nat.add_right_comm, hadd]; rfl
    · dsimp only [minExponent]; omega
    · dsimp only [maxExponent] at *; omega
    · calc normalMantissa = 2 ^ n.log2 * 2 ^ (52 - n.log2) := by rw [← Nat.pow_add, hadd]; rfl
        _ ≤ n * 2 ^ (52 - n.log2) := Nat.mul_le_mul_right _ hlow
    · simp only [toRat, Nat.cast_mul, Nat.cast_pow, Nat.cast_ofNat]
      rw [zpow_sub₀ two_ne_zero, zpow_natCast, zpow_natCast]
      field_simp

theorem exact_of_lt (h : n < mantissaLimit) : Exact n := by
  simpa using exact_mul_two_pow (k := 0) h (by decide)

-- A power of ten is one of five and one of two, and that of five has 53 bits at most.
theorem exact_ten_pow (h : k ≤ 22) : Exact (10 ^ k) := by
  rw [show 10 = 5 * 2 from rfl, Nat.mul_pow]
  refine exact_mul_two_pow ?_ (by dsimp only [maxExponent]; omega)
  calc 5 ^ k ≤ 5 ^ 22 := Nat.pow_le_pow_right (by decide) h
    _ < mantissaLimit := by decide

end Exact
end ChainHost.Double
