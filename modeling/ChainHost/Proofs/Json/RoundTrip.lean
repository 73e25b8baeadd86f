import ChainHost.Proofs.Json.Making
import ChainHost.Proofs.Json.Writing

namespace ChainHost.Json

section Numbers

-- A number that is read back from its own text.
def Number.Settled (n : Number) : Prop :=
  Value.ofText n.text = .ok (.number n)

theorem Number.settled_iff {n : Number} : n.Settled ↔ n.numeral.value = .ok n := by
  rw [Settled, Value.ofText, show n.text = (Value.number n).text from rfl,
    anyValue_makes.ofText_eq_ok_iff (Value.number n).hasText_text]
  simp [Value.tree, Tree.Denotes]

theorem Number.settled_of_isInteger {n : Number} (h : n.IsInteger) (hf : n.Fits) : n.Settled := by
  rw [settled_iff]
  cases n
  case double => exact h.elim
  case integer i =>
    obtain ⟨hlow, hhigh⟩ := hf
    cases i
    case ofNat n   => exact Numeral.value_ofDigits (by simpa using hhigh)
    case negSucc n => exact Numeral.value_ofDigits_neg (Nat.succ_ne_zero n) (by omega)

variable {x : Double}

theorem doubleNumeral_negative (x : Double) : (doubleNumeral x).negative = x.negative := by
  obtain ⟨exponent, -, h | h⟩ := doubleNumeral_eq_or x
  case inl => rw [h, positionalNumeral_negative]
  case inr => rw [h]; rfl

-- No double is written as an integer.
theorem doubleNumeral_marked (x : Double) :
    (doubleNumeral x).fraction ≠ none ∨ (doubleNumeral x).exponent ≠ none := by
  obtain ⟨exponent, -, h | h⟩ := doubleNumeral_eq_or x
  case inr => simp [h, scientificNumeral]
  case inl =>
    left
    rw [h, positionalNumeral]
    split <;> simp

-- A significand of 64 bits has twenty digits at most.
theorem exponentSize_doubleNumeral_le (hs : (doubleNumeral x).significand ≤ Numeral.maxSignificand)
    (hp : (doubleNumeral x).power.natAbs ≤ 22) :
    (doubleNumeral x).exponentSize ≤ Numeral.maxExponent := by
  obtain ⟨exponent, -, h | h⟩ := doubleNumeral_eq_or x
  case inl => simp [h, Numeral.exponentSize, positionalNumeral_exponent]
  case inr =>
    rw [h, scientificNumeral_significand] at hs
    rw [h, scientificNumeral_power] at hp
    rw [h, scientificNumeral_exponentSize]
    have hlen : (digitsOf x.shortest.digits).length ≤ 20 :=
      (Nat.length_toDigits_le_iff (by decide) (by decide)).2 (hs.trans_lt (by decide))
    simp only [Numeral.maxExponent]
    omega

-- A double is read back if it has few digits, and few zeros are between them and the point.
theorem Number.settled_of_exact (hx : x.Canonical)
    (hs : (doubleNumeral x).significand ≤ Numeral.maxSignificand)
    (he : Double.Exact (doubleNumeral x).significand) (hp : (doubleNumeral x).power.natAbs ≤ 22) :
    (double x).Settled := by
  rw [settled_iff]
  refine Numeral.value_eq_of_covers (doubleNumeral_marked x) hs he
    (exponentSize_doubleNumeral_le hs hp) hp hx (doubleNumeral_negative x).symm ?_
  rw [show (double x).numeral = doubleNumeral x from rfl, doubleNumeral_amount]
  exact Double.covers_shortest hx

end Numbers

section Values

variable {v : Value} {room : ℕ} {t : Tree} {n : Number}

theorem Tree.Denotes.exists_array {vs : List Value} (h : t.Denotes room (.array vs)) :
    ∃ r ts, room = r + 1 ∧ t = .array ts ∧ List.Forall₂ (Denotes r) ts vs := by
  cases t <;> cases room <;> simp_all [Tree.Denotes]

theorem Tree.Denotes.exists_object {vs : List (String × Value)} (h : t.Denotes room (.object vs)) :
    ∃ r ms, room = r + 1 ∧ t = .object ms ∧ IsMap (Denotes r) (.object ms) vs := by
  cases t
  case object ms =>
    cases room
    case zero => cases h
    case succ r =>
      obtain ⟨_, h, ⟨⟩⟩ := h
      exact ⟨r, ms, rfl, rfl, .intro h⟩
  all_goals cases room <;> simp [Tree.Denotes] at h

theorem Tree.Denotes.exists_number (h : t.Denotes room (.number n)) :
    ∃ m, t = .number m ∧ m.value = .ok n := by
  cases t <;> cases room <;> simp_all [Tree.Denotes]

theorem exists_mem_of_forall₂ {α β : Type} {R : α → β → Prop} {as : List α} {bs : List β}
    (h : List.Forall₂ R as bs) {b : β} (hb : b ∈ bs) : ∃ a ∈ as, R a b := by
  induction h
  case nil => cases hb
  case cons a _ _ _ hr _ hi =>
    rcases List.mem_cons.1 hb with rfl | hb
    case inl => exact ⟨a, List.mem_cons_self, hr⟩
    case inr =>
      obtain ⟨a', ha, hr⟩ := hi hb
      exact ⟨a', List.mem_cons_of_mem _ ha, hr⟩

-- Every number of a value has been made of a numeral.
theorem Tree.Denotes.exists_numeral (h : t.Denotes room v) (hn : n ∈ v.numbers) :
    ∃ m : Numeral, m.value = .ok n := by
  induction v using Value.induction generalizing t room
  case null | bool | string => simp [Value.numbers] at hn
  case number x =>
    obtain rfl : n = x := by simpa [Value.numbers] using hn
    obtain ⟨m, -, hm⟩ := h.exists_number
    exact ⟨m, hm⟩
  case array items hi =>
    obtain ⟨v, hv, hn⟩ := Value.mem_numbers_array.1 hn
    obtain ⟨r, ts, -, -, hts⟩ := h.exists_array
    obtain ⟨t, -, ht⟩ := exists_mem_of_forall₂ hts hv
    exact hi v hv ht hn
  case object members hm =>
    obtain ⟨m, hm', hn⟩ := Value.mem_numbers_object.1 hn
    obtain ⟨r, ms, -, -, hms⟩ := h.exists_object
    obtain ⟨t, -, ht⟩ := hms.exists_counts hm'
    exact hm m hm' ht hn

theorem Tree.Denotes.readable (h : t.Denotes room v) : v.Readable room := by
  induction v using Value.induction generalizing t room
  case null | bool | string => cases room <;> trivial
  case number x =>
    obtain ⟨m, -, hm⟩ := h.exists_number
    cases room <;> exact Numeral.fits_of_value hm
  case array items hi =>
    obtain ⟨r, ts, rfl, -, hts⟩ := h.exists_array
    intro v hv
    obtain ⟨t, -, ht⟩ := exists_mem_of_forall₂ hts hv
    exact hi v hv ht
  case object members hm =>
    obtain ⟨r, ms, rfl, -, hms⟩ := h.exists_object
    refine ⟨?sorted, fun m hm' => ?values⟩
    case sorted =>
      obtain ⟨_, vs, -, -, rfl⟩ := hms.exists_keyed
      exact sortedKeys_sortMembers
    case values =>
      obtain ⟨t, -, ht⟩ := hms.exists_counts hm'
      exact hm m hm' ht

theorem Value.readable_of_ofText {text : String} (h : ofText text = .ok v) :
    v.Readable maxOpen := by
  obtain ⟨t, ht⟩ := exists_hasText h
  exact ((anyValue_makes.ofText_eq_ok_iff ht).1 h).readable

theorem Value.denotes_tree (hv : v.Readable room) (hn : ∀ n ∈ v.numbers, n.Settled) :
    v.tree.Denotes room v := by
  induction v using Value.induction generalizing room
  case null | bool | string => cases room <;> rfl
  case number n =>
    have hn := Number.settled_iff.1 (hn n (by simp [numbers]))
    cases room <;> exact ⟨n, hn, rfl⟩
  case array items hi =>
    cases room
    case zero => cases hv
    case succ room =>
      rw [tree_array]
      refine ⟨items, ?_, rfl⟩
      rw [List.forall₂_map_left_iff, List.forall₂_same]
      exact fun v h => hi v h (hv v h) fun n hm => hn n (mem_numbers_array.2 ⟨v, h, hm⟩)
  case object members hm =>
    cases room
    case zero => cases hv
    case succ room =>
      rw [tree_object]
      refine ⟨members, ?_, by rw [hv.1.sortMembers_eq]⟩
      rw [Keyed, List.forall₂_map_left_iff, List.forall₂_same]
      exact fun m h => ⟨rfl, hm m h (hv.2 m h) fun n hm => hn n (mem_numbers_object.2 ⟨m, h, hm⟩)⟩

theorem Value.ofText_text_iff {w : Value} : ofText v.text = .ok w ↔ v.tree.Denotes maxOpen w :=
  anyValue_makes.ofText_eq_ok_iff v.hasText_text

theorem Value.Readable.fits (hv : v.Readable room) (hn : n ∈ v.numbers) : n.Fits := by
  induction v using Value.induction generalizing room
  case null | bool | string => simp [numbers] at hn
  case number x =>
    obtain rfl : n = x := by simpa [numbers] using hn
    cases room <;> exact hv
  case array items hi =>
    cases room
    case zero => cases hv
    case succ room =>
      obtain ⟨v, h, hn⟩ := mem_numbers_array.1 hn
      exact hi v h (hv v h) hn
  case object members hm =>
    cases room
    case zero => cases hv
    case succ room =>
      obtain ⟨m, h, hn⟩ := mem_numbers_object.1 hn
      exact hm m h (hv.2 m h) hn

theorem Value.ofText_text (hv : v.Readable maxOpen) (hn : ∀ n ∈ v.numbers, n.IsInteger) :
    ofText v.text = .ok v :=
  ofText_text_iff.2 (denotes_tree hv fun n h => Number.settled_of_isInteger (hn n h) (hv.fits h))

end Values

end ChainHost.Json
