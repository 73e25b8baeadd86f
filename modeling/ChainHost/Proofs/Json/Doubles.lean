import ChainHost.Proofs.Decimal.Shortest
import ChainHost.Proofs.Json.Numeral

namespace ChainHost.Json.Numeral

section Scaling

variable {x y : Double} {exponent : ℤ}

theorem canonical_of_scale? (hx : x.Canonical) (h : scale? x exponent = some y) : y.Canonical := by
  unfold scale? at h
  generalize exponent.natAbs / scaleLimit + 1 = fuel at h
  induction fuel generalizing x exponent
  case zero =>
    cases h
    exact hx
  case succ fuel hi =>
    rw [scale?.step] at h
    split at h
    case isTrue =>
      obtain ⟨power, hp, h⟩ := Option.bind_eq_some_iff.1 h
      split at h
      case isTrue  => exact (Double.mul?_eq_some_iff.1 h).2.1
      case isFalse => exact ((Double.div?_eq_some_iff (Double.toRat_pos_of_powerOfTen? hp)).1 h).2.1
    case isFalse =>
      split at h
      case isTrue =>
        cases h
        exact hx
      case isFalse =>
        split at h
        case isTrue => cases h
        case isFalse =>
          obtain ⟨power, hp, h⟩ := Option.bind_eq_some_iff.1 h
          obtain ⟨z, hz, h⟩ := Option.bind_eq_some_iff.1 h
          have hp := Double.toRat_pos_of_powerOfTen? hp
          exact hi ((Double.div?_eq_some_iff hp).1 hz).2.1 h

-- By a power of ten that is a double a number is scaled in one step.
theorem scale?_eq_some (he : exponent.natAbs ≤ 22) (hy : y.Canonical)
    (hs : y.negative = x.negative) (h : y.Covers (x.toRat * 10 ^ exponent)) :
    scale? x exponent = some y := by
  obtain ⟨power, hp, hsign, hten⟩ := (Double.exact_ten_pow he).ofNat?_eq_some
  have hpos := Double.toRat_pos_of_powerOfTen? hp
  have hs : y.negative = (x.negative != power.negative) := by simp [hs, hsign]
  rw [Nat.cast_pow, Nat.cast_ofNat] at hten
  rw [scale?, Nat.div_eq_of_lt (he.trans_lt (by decide)), scale?.step,
    if_pos (he.trans (by decide)), Double.powerOfTen?, Nat.pow_eq, hp, Option.bind_eq_bind,
    Option.bind_some]
  split
  case isTrue hn =>
    rw [Double.mul?_eq_some_iff, hten, ← zpow_natCast, Int.natAbs_of_nonneg hn]
    exact ⟨hs, hy, h⟩
  case isFalse hn =>
    rw [Double.div?_eq_some_iff hpos, hten, div_eq_mul_inv, ← zpow_natCast, ← zpow_neg,
      Int.ofNat_natAbs_of_nonpos (le_of_not_ge hn), neg_neg]
    exact ⟨hs, hy, h⟩

theorem canonical_of_double? {negative : Bool} {significand : ℕ}
    (h : double? negative significand exponent = some x) : x.Canonical := by
  obtain ⟨y, hy, h⟩ := Option.bind_eq_some_iff.1 h
  obtain ⟨z, hz, ⟨⟩⟩ := Option.bind_eq_some_iff.1 h
  exact (canonical_of_scale? (Double.ofNat?_eq_some_iff.1 hy).2.1 hz).congr rfl rfl

theorem double?_eq_some {significand : ℕ} (hs : Double.Exact significand)
    (he : exponent.natAbs ≤ 22) (hx : x.Canonical) (h : x.Covers (significand * 10 ^ exponent)) :
    double? x.negative significand exponent = some x := by
  obtain ⟨y, hy, hsign, hn⟩ := hs.ofNat?_eq_some
  have hscale : scale? y exponent = some { x with negative := false } :=
    scale?_eq_some he (hx.congr rfl rfl) hsign.symm (hn ▸ ⟨h.lower_le, h.le_upper, h.even⟩)
  rw [double?, hy, Option.bind_eq_bind, Option.bind_some, hscale]
  rfl

end Scaling

section Values

variable {n : Numeral} {x : Double}

-- The digits before and after the point as one number.
def significand (n : Numeral) : ℕ :=
  (n.whole ++ n.fraction.getD []).foldl (fun m d => m * 10 + d) 0

-- The size of the written exponent.
def exponentSize (n : Numeral) : ℕ :=
  (n.exponent.elim [] Prod.snd).foldl (fun m d => m * 10 + d) 0

-- The power of ten by which the digits are multiplied.
def power (n : Numeral) : ℤ :=
  signed (n.exponent.elim false Prod.fst) n.exponentSize - (n.fraction.getD []).length

theorem canonical_of_orTooLarge {y : Option Double} (hy : ∀ z, y = some z → z.Canonical)
    (h : value.orTooLarge y = .ok (.double x)) : x.Canonical := by
  cases y
  case none => cases h
  case some z =>
    cases h
    exact hy x rfl

theorem canonical_of_value (h : n.value = .ok (.double x)) : x.Canonical := by
  have hd {negative : Bool} {significand : ℕ} {exponent : ℤ} :=
    canonical_of_orTooLarge (x := x) fun z (hz : double? negative significand exponent = some z) =>
      canonical_of_double? hz
  unfold value at h
  dsimp only at h
  split at h
  case isTrue =>
    split at h
    case isTrue => cases h
    case isFalse =>
      split at h
      case isTrue  => exact hd h
      case isFalse => cases h
  case isFalse =>
    split at h
    case h_1 => exact hd h
    case h_2 =>
      split at h
      case h_1 => exact hd h
      case h_2 =>
        split at h
        case isTrue => cases h
        case isFalse =>
          cases h
          exact Double.canonical_zero.congr rfl rfl

-- A numeral with a point or an exponent whose digits all count.
theorem value_eq (hd : n.fraction ≠ none ∨ n.exponent ≠ none)
    (hs : n.significand ≤ maxSignificand) (he : n.exponentSize ≤ maxExponent) :
    n.value = value.orTooLarge (double? n.negative n.significand n.power) := by
  have hsum : n.significand = (n.fraction.getD []).foldl (fun m d => m * 10 + d)
      (n.whole.foldl (fun m d => m * 10 + d) 0) := List.foldl_append
  have hw := absorb_eq ((le_foldl _ _).trans (hsum ▸ hs))
  have hf := absorb_eq (hsum ▸ hs)
  have hn : ¬(n.fraction.isNone ∧ n.exponent.isNone ∧ ([] : List ℕ).isEmpty) := by
    simpa using fun h h' => hd.elim (absurd h) (absurd h')
  simp only [value, hw, if_neg hn, hf, ← hsum]
  cases hx : n.exponent
  case none => simp [power, exponentSize, signed, hx]
  case some e =>
    have he := absorb_eq (show e.2.foldl (fun m d => m * 10 + d) 0 ≤ maxExponent by
      simpa [exponentSize, hx] using he)
    simp only [he]
    simp [power, exponentSize, hx, ← sub_eq_neg_add]

-- Where digits and power are doubles, the double nearest to the numeral is read.
theorem value_eq_of_covers (hd : n.fraction ≠ none ∨ n.exponent ≠ none)
    (hs : n.significand ≤ maxSignificand) (hexact : Double.Exact n.significand)
    (he : n.exponentSize ≤ maxExponent) (hp : n.power.natAbs ≤ 22) (hx : x.Canonical)
    (hn : x.negative = n.negative) (h : x.Covers (n.significand * 10 ^ n.power)) :
    n.value = .ok (.double x) := by
  rw [value_eq hd hs he, ← hn, double?_eq_some hexact hp hx h]
  rfl

end Values
end ChainHost.Json.Numeral
