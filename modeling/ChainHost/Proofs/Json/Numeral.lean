import Mathlib.Data.List.Basic
import Mathlib.Tactic.IntervalCases
import ChainHost.Json.Reader

namespace ChainHost.Json

-- The numbers that a text can hold: integers of 64 bits, with or without sign, and doubles.
def Number.Fits : Number → Prop
  | integer i => -(Numeral.maxNegated : Int) ≤ i ∧ i ≤ Numeral.maxSignificand
  | double _  => True

def Number.IsInteger : Number → Prop
  | integer _ => True
  | double _  => False

section Digits

theorem isDigit_of_mem_digitsOf {n : Nat} : ∀ c ∈ digitsOf n, c.isDigit :=
  fun _ h => Nat.isDigit_of_mem_toDigits (by decide) (by decide) h

theorem exists_digitsOf_eq_cons (n : Nat) : ∃ d ds, digitsOf n = d :: ds ∧ d.isDigit := by
  cases h : digitsOf n
  case nil       => exact absurd h Nat.toDigits_ne_nil
  case cons d ds => exact ⟨d, ds, rfl, isDigit_of_mem_digitsOf d (h ▸ List.mem_cons_self)⟩

-- A number is not written with a zero in front unless it is zero.
theorem head?_digitsOf_ne {n : Nat} (h : n ≠ 0) : (digitsOf n).head? ≠ some '0' := by
  induction n using Nat.strong_induction_on
  case h n hi =>
    rw [digitsOf]
    rcases Nat.lt_or_ge n 10 with hn | hn
    · rw [Nat.toDigits_of_lt_base hn]
      interval_cases n <;> simp_all [Nat.digitChar]
    · rw [Nat.toDigits_of_base_le (by decide) hn, List.head?_append_of_ne_nil _ Nat.toDigits_ne_nil]
      exact hi (n / 10) (by omega) (by omega)

theorem digitsOf_ne_zero_cons (n : Nat) (d : Char) (ds : List Char) :
    digitsOf n ≠ '0' :: d :: ds := by
  intro h
  rcases Nat.eq_zero_or_pos n with rfl | hn
  · simp [digitsOf] at h
  · exact head?_digitsOf_ne hn.ne' (by rw [h]; rfl)

theorem foldl_digitsOf (n : Nat) :
    ((digitsOf n).map digitValue).foldl (fun n d => n * 10 + d) 0 = n := by
  have h := Nat.ofDigitChars_ten_toDigits (n := n)
  rw [Nat.ofDigitChars_eq_foldl] at h
  rw [List.foldl_map]
  simpa only [digitValue, digitsOf, Nat.mul_comm] using h

end Digits

section Reading

-- What can follow a numeral: nothing that would make it longer.
def EndsNumeral (rest : List Char) : Prop :=
  ∀ c ∈ rest.head?, ¬c.isDigit ∧ c ≠ '.' ∧ c ≠ 'e' ∧ c ≠ 'E'

-- The numeral of an integer.
def Numeral.ofDigits (negative : Bool) (n : Nat) : Numeral :=
  ⟨negative, (digitsOf n).map digitValue, none, none⟩

variable {rest : List Char}

namespace EndsNumeral

theorem readExponent_eq (hr : EndsNumeral rest) (offset : Nat) :
    readExponent ⟨offset, rest⟩ = .ok (none, ⟨offset, rest⟩) := by
  unfold readExponent
  split
  case h_1 e cs h =>
    cases h
    obtain ⟨-, -, he, hE⟩ := hr e rfl
    rw [if_neg (by simp [he, hE])]
  case h_2 => rfl

end EndsNumeral
end Reading

namespace Numeral

theorem le_foldl (n : Nat) (ds : List Nat) : n ≤ ds.foldl (fun n d => n * 10 + d) n := by
  induction ds generalizing n
  case nil          => exact Nat.le_refl n
  case cons d ds hi => exact Nat.le_trans (by omega) (hi (n * 10 + d))

theorem absorb_eq {limit n : Nat} {ds : List Nat}
    (h : ds.foldl (fun n d => n * 10 + d) n ≤ limit) :
    absorb limit n ds = (ds.foldl (fun n d => n * 10 + d) n, []) := by
  induction ds generalizing n
  case nil => rfl
  case cons d ds hi =>
    rw [absorb, if_pos (Nat.le_trans (le_foldl _ ds) h)]
    exact hi h

theorem absorb_digitsOf {limit n : Nat} (h : n ≤ limit) :
    absorb limit 0 ((digitsOf n).map digitValue) = (n, []) := by
  rw [absorb_eq (by rwa [foldl_digitsOf]), foldl_digitsOf]

theorem absorb_le {limit n : Nat} {ds : List Nat} (h : n ≤ limit) :
    (absorb limit n ds).1 ≤ limit := by
  induction ds generalizing n
  case nil => exact h
  case cons d ds hi =>
    rw [absorb]
    split
    case isTrue hd => exact hi hd
    case isFalse   => exact h

theorem value_ofDigits {n : Nat} (h : n ≤ maxSignificand) :
    (ofDigits false n).value = .ok (.integer n) := by
  simp [value, ofDigits, absorb_digitsOf h]

theorem value_ofDigits_neg {n : Nat} (h : n ≠ 0) (hn : n ≤ maxNegated) :
    (ofDigits true n).value = .ok (.integer (-n)) := by
  have hs : n ≤ maxSignificand := Nat.le_trans hn (by decide)
  simp [value, ofDigits, absorb_digitsOf hs, h, hn]

theorem fits_of_orTooLarge {x : Option Double} {y : Number}
    (h : value.orTooLarge x = .ok y) : y.Fits := by
  unfold value.orTooLarge at h
  split at h <;> cases h
  trivial

-- Only digits that make an integer of 64 bits are read as an integer.
theorem fits_of_value {n : Numeral} {x : Number} (h : n.value = .ok x) : x.Fits := by
  have ha : (absorb maxSignificand 0 n.whole).1 ≤ maxSignificand := absorb_le (Nat.zero_le _)
  unfold value at h
  split at h
  case h_1 significand rest hs =>
    rw [hs] at ha
    split at h
    case isTrue =>
      split at h
      case isTrue =>
        cases h
        simp only [Number.Fits, maxNegated, maxSignificand] at *
        omega
      case isFalse =>
        split at h
        case isTrue => exact fits_of_orTooLarge h
        case isFalse =>
          cases h
          simp only [Number.Fits, maxNegated, maxSignificand] at *
          omega
    case isFalse =>
      split at h
      case h_1 => exact fits_of_orTooLarge h
      case h_2 =>
        dsimp only at h
        split at h
        case h_1 => exact fits_of_orTooLarge h
        case h_2 =>
          split at h
          case isTrue  => cases h
          case isFalse => cases h; trivial

-- A size: an integer that is written with digits alone and fits into 64 bits.
structure IsSize (n : Numeral) : Prop where
  unsigned : n.negative = false
  integral : n.fraction = none ∧ n.exponent = none
  le       : n.whole.foldl (fun m d => m * 10 + d) 0 ≤ 2 ^ 64 - 1

theorem foldl_of_absorb {limit m k : Nat} {ds : List Nat} (h : absorb limit m ds = (k, []))
    (hm : m ≤ limit) : ds.foldl (fun m d => m * 10 + d) m = k ∧ k ≤ limit := by
  induction ds generalizing m
  case nil =>
    cases h
    exact ⟨rfl, hm⟩
  case cons d ds hi =>
    rw [absorb] at h
    split at h
    case isTrue hd => exact hi h hd
    case isFalse   => cases h

theorem orTooLarge_ne_integer {x : Option Double} {i : Int} :
    value.orTooLarge x ≠ .ok (.integer i) := by
  unfold value.orTooLarge
  split <;> nofun

-- Only a size is read as an integer that is not negative.
theorem isSize_of_value {n : Numeral} {k : Nat} (h : n.value = .ok (.integer (Int.ofNat k))) :
    n.IsSize := by
  unfold value at h
  split at h
  case h_1 significand rest hs =>
    split at h
    case isTrue hi =>
      obtain ⟨hfraction, hexponent, hrest⟩ := hi
      rw [List.isEmpty_iff.1 hrest] at hs
      obtain ⟨hfold, hle⟩ := foldl_of_absorb hs (Nat.zero_le _)
      split at h
      case isTrue hn =>
        exact {
          unsigned := Bool.eq_false_iff.2 hn
          integral := ⟨Option.isNone_iff_eq_none.1 hfraction, Option.isNone_iff_eq_none.1 hexponent⟩
          le       := hfold ▸ hle }
      case isFalse =>
        split at h
        case isTrue => exact absurd h orTooLarge_ne_integer
        case isFalse hs =>
          simp at h
          omega
    case isFalse =>
      split at h
      case h_1 => exact absurd h orTooLarge_ne_integer
      case h_2 =>
        dsimp only at h
        split at h
        case h_1 => exact absurd h orTooLarge_ne_integer
        case h_2 => split at h <;> cases h

end Numeral

section Nodes

variable {rest : List Char}

theorem readNode_digit {d : Char} (h : d.isDigit) (fuel offset : Nat) (cs : List Char) :
    readNode (fuel + 1) ⟨offset, d :: cs⟩ =
      numberNode ⟨offset, d :: cs⟩ false ⟨offset, d :: cs⟩ := by
  rw [readNode]
  split
  case h_8 he => cases he; rw [if_pos h]
  case h_9 he => cases he
  all_goals
    next he => cases he; cases h

end Nodes
end ChainHost.Json
