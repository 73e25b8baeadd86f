import ChainHost.Proofs.Json.Grammar
import ChainHost.Proofs.Json.Numeral
import ChainHost.Proofs.Reports

namespace ChainHost.Json

section Blanks

variable {cs rest : List Char} {c : Char}

theorem blanks_dropWhile (cs : List Char) : Blanks cs (cs.dropWhile isSpace) := by
  induction cs
  case nil => exact .none
  case cons c cs hi =>
    by_cases h : isSpace c
    case pos => simpa [h] using .cons h hi
    case neg => simpa [h] using .none

theorem Blanks.dropWhile_eq (h : Blanks cs rest) (hr : ∀ c ∈ rest.head?, isSpace c = false) :
    cs.dropWhile isSpace = rest := by
  induction h
  case cons h _ hi => rw [List.dropWhile_cons_of_pos h, hi hr]
  case none rest =>
    cases rest
    case nil       => rfl
    case cons c cs => simp [hr c rfl]

theorem Blanks.skipSpaces_eq (h : Blanks cs (c :: rest)) (hc : isSpace c = false) (offset : Nat) :
    ∃ stop, Cursor.skipSpaces ⟨offset, cs⟩ = ⟨stop, c :: rest⟩ := by
  have hd := h.dropWhile_eq (by simpa using hc)
  exact ⟨_, by rw [Cursor.skipSpaces, hd]⟩

theorem Opens.skipSpaces_eq (hr : Opens rest) (h : Blanks cs rest) (offset : Nat) :
    ∃ stop, Cursor.skipSpaces ⟨offset, cs⟩ = ⟨stop, rest⟩ := by
  obtain ⟨c, cs', rfl, hc, _⟩ := hr
  exact h.skipSpaces_eq hc offset

theorem Blanks.endsNumeral (h : Blanks cs rest) (hr : EndsNumeral rest) : EndsNumeral cs := by
  cases h
  case none => exact hr
  case cons h _ =>
    intro c hc
    cases hc
    simp only [isSpace, Bool.or_eq_true, beq_iff_eq] at h
    rcases h with ((rfl | rfl) | rfl) | rfl <;> decide

end Blanks

section Numerals

variable {cs rest : List Char} {ds : List Nat} {fraction : Option (List Nat)}
  {exponent : Option (Bool × List Nat)}

-- What can follow the digits of a numeral: no further digit.
def EndsDigits (rest : List Char) : Prop :=
  ∀ c ∈ rest.head?, c.isDigit = false

-- What can follow a fraction, or stand in its place.
def EndsFraction (rest : List Char) : Prop :=
  ∀ c ∈ rest.head?, c.isDigit = false ∧ c ≠ '.'

theorem EndsNumeral.endsDigits (h : EndsNumeral rest) : EndsDigits rest :=
  fun c hc => Bool.eq_false_iff.2 (h c hc).1

theorem EndsFraction.endsDigits (h : EndsFraction rest) : EndsDigits rest :=
  fun c hc => (h c hc).1

theorem Exponent.endsFraction (h : Exponent exponent cs rest) (hr : EndsNumeral rest) :
    EndsFraction cs := by
  cases h
  case none => exact fun c hc => ⟨hr.endsDigits c hc, (hr c hc).2.1⟩
  case some he _ _ =>
    intro c hc
    cases hc
    rcases he with rfl | rfl <;> decide

theorem Fraction.endsDigits (h : Fraction fraction cs rest) (hr : EndsFraction rest) :
    EndsDigits cs := by
  cases h
  case none => exact hr.endsDigits
  case some => simp [EndsDigits]

section Digits

theorem Digits.head_isDigit {c : Char} (h : Digits ds (c :: cs) rest) : c.isDigit := by
  cases h <;> assumption

theorem Digits.takeWhile_ne_nil (h : Digits ds cs rest) : cs.takeWhile Char.isDigit ≠ [] := by
  cases h <;> simp [*]

-- Reading takes as many digits as there are.
theorem Digits.takeWhile_eq (h : Digits ds cs rest) (hr : EndsDigits rest) :
    (cs.takeWhile Char.isDigit).map digitValue = ds ∧ cs.dropWhile Char.isDigit = rest := by
  induction h
  case cons h _ hi => simp [h, hi hr]
  case last c rest h =>
    cases rest
    case nil        => simp [h]
    case cons c' cs => simp [h, hr c' rfl]

theorem digits_takeWhile (h : cs.takeWhile Char.isDigit ≠ []) :
    Digits ((cs.takeWhile Char.isDigit).map digitValue) cs (cs.dropWhile Char.isDigit) := by
  induction cs
  case nil => exact absurd rfl h
  case cons c cs hi =>
    have hc : c.isDigit := by
      by_contra hc
      simp [hc] at h
    simp only [List.takeWhile_cons_of_pos hc, List.dropWhile_cons_of_pos hc, List.map_cons]
    by_cases hn : cs.takeWhile Char.isDigit = []
    case neg => exact .cons hc (hi hn)
    case pos =>
      have hd : cs.dropWhile Char.isDigit = cs := by
        simpa [hn] using List.takeWhile_append_dropWhile (p := Char.isDigit) (l := cs)
      rw [hn, hd]
      exact .last hc

end Digits

section Complete

-- A zero is read alone.
theorem Whole.takeWhile_ne (h : Whole ds cs rest) (hr : EndsDigits rest) (d : Char)
    (more : List Char) : cs.takeWhile Char.isDigit ≠ '0' :: d :: more := by
  intro he
  cases h
  case digits hc h =>
    rw [List.takeWhile_cons_of_pos h.head_isDigit] at he
    exact hc (List.cons.inj he).1
  case zero =>
    cases rest
    case nil       => cases he
    case cons c cs => simp [hr c rfl] at he

theorem Whole.readWhole_eq (h : Whole ds cs rest) (hr : EndsDigits rest) (offset : Nat) :
    ∃ stop, readWhole ⟨offset, cs⟩ = .ok (ds, ⟨stop, rest⟩) := by
  have hd := h.toDigits
  obtain ⟨ht, hw⟩ := hd.takeWhile_eq hr
  simp only [readWhole]
  split
  case h_1 he _ => exact absurd he hd.takeWhile_ne_nil
  case h_2 he _ => exact absurd he hd.takeWhile_ne_nil
  case h_3 he   => exact absurd he (h.takeWhile_ne hr _ _)
  case h_4      => exact ⟨_, by rw [ht, hw]⟩

theorem Fraction.readFraction_eq (h : Fraction fraction cs rest) (hr : EndsFraction rest)
    (offset : Nat) : ∃ stop, readFraction ⟨offset, cs⟩ = .ok (fraction, ⟨stop, rest⟩) := by
  cases h
  case none =>
    unfold readFraction
    split
    case h_1 cs h => cases h; exact absurd rfl (hr '.' rfl).2
    case h_2      => exact ⟨_, rfl⟩
  case some hd =>
    obtain ⟨ht, hw⟩ := hd.takeWhile_eq hr.endsDigits
    simp only [readFraction]
    split
    case h_1 he _ => exact absurd he hd.takeWhile_ne_nil
    case h_2 he _ => exact absurd he hd.takeWhile_ne_nil
    case h_3      => exact ⟨_, by rw [ht, hw]⟩

theorem Sign.readSign_eq {negative : Bool} (h : Sign negative cs rest) {ds : List Nat}
    {more : List Char} (hd : Digits ds rest more) (offset : Nat) :
    ∃ stop, readSign ⟨offset, cs⟩ = (negative, ⟨stop, rest⟩) := by
  cases h
  case plus  => exact ⟨_, rfl⟩
  case minus => exact ⟨_, rfl⟩
  case none =>
    unfold readSign
    split
    case h_1 h => cases h; cases hd.head_isDigit
    case h_2 h => cases h; cases hd.head_isDigit
    case h_3   => exact ⟨_, rfl⟩

theorem Exponent.readExponent_eq (h : Exponent exponent cs rest) (hr : EndsNumeral rest)
    (offset : Nat) : ∃ stop, readExponent ⟨offset, cs⟩ = .ok (exponent, ⟨stop, rest⟩) := by
  cases h
  case none => exact ⟨_, hr.readExponent_eq offset⟩
  case some he hs hd =>
    obtain ⟨ht, hw⟩ := hd.takeWhile_eq hr.endsDigits
    obtain ⟨stop, hs⟩ := hs.readSign_eq hd (offset + 1)
    simp only [readExponent, if_pos he, hs]
    split
    case h_1 he _ => exact absurd he hd.takeWhile_ne_nil
    case h_2 he _ => exact absurd he hd.takeWhile_ne_nil
    case h_3      => exact ⟨_, by rw [ht, hw]⟩

theorem Numeral.Follows.readNumeral_eq {n : Numeral} (h : n.Follows cs rest) (hr : EndsNumeral rest)
    (offset : Nat) :
    ∃ stop, readNumeral n.negative ⟨offset, cs⟩ = .ok (n, ⟨stop, rest⟩) := by
  obtain ⟨cs₁, cs₂, hw, hf, he⟩ := h
  have hr' := he.endsFraction hr
  obtain ⟨o, hw⟩ := hw.readWhole_eq (hf.endsDigits hr') offset
  obtain ⟨o', hf⟩ := hf.readFraction_eq hr' o
  obtain ⟨stop, he⟩ := he.readExponent_eq hr o'
  exact ⟨stop, by simp only [readNumeral, hw, hf, he, bind, Except.bind, pure, Except.pure]⟩

end Complete

section Sound

variable {c c' : Cursor}

theorem whole_takeWhile (h : cs.takeWhile Char.isDigit ≠ [])
    (hz : ∀ d more, cs.takeWhile Char.isDigit ≠ '0' :: d :: more) :
    Whole ((cs.takeWhile Char.isDigit).map digitValue) cs (cs.dropWhile Char.isDigit) := by
  have hd := digits_takeWhile h
  cases cs
  case nil => exact absurd rfl h
  case cons c cs =>
    by_cases hc : c = '0'
    case neg => exact .digits hc hd
    case pos =>
      subst hc
      cases ht : cs.takeWhile Char.isDigit
      case cons d more => exact absurd (by simp [ht]) (hz d more)
      case nil =>
        have hr : cs.dropWhile Char.isDigit = cs := by
          simpa [ht] using List.takeWhile_append_dropWhile (p := Char.isDigit) (l := cs)
        simpa [ht, hr] using Whole.zero

theorem whole_of_readWhole (h : readWhole c = .ok (ds, c')) : Whole ds c.rest c'.rest := by
  simp only [readWhole] at h
  split at h
  case h_4 hn hz _ =>
    cases h
    exact whole_takeWhile hn hz
  all_goals cases h

theorem fraction_of_readFraction (h : readFraction c = .ok (fraction, c')) :
    Fraction fraction c.rest c'.rest := by
  unfold readFraction at h
  split at h
  case h_2 => cases h; exact .none
  case h_1 cs hc =>
    dsimp only at h
    split at h
    case h_3 hn _ =>
      cases h
      rw [hc]
      exact .some (digits_takeWhile hn)
    all_goals cases h

theorem sign_readSign (c : Cursor) : Sign (readSign c).1 c.rest (readSign c).2.rest := by
  unfold readSign
  split
  case h_1 h => rw [h]; exact .plus
  case h_2 h => rw [h]; exact .minus
  case h_3   => exact .none

theorem exponent_of_readExponent (h : readExponent c = .ok (exponent, c')) :
    Exponent exponent c.rest c'.rest := by
  unfold readExponent at h
  split at h
  case h_2 => cases h; exact .none
  case h_1 e cs hc =>
    split at h
    case isFalse => cases h; exact .none
    case isTrue he =>
      have hs := sign_readSign ⟨c.offset + 1, cs⟩
      dsimp only at h
      split at h
      case h_3 hn _ =>
        cases h
        rw [hc]
        exact .some he hs (digits_takeWhile hn)
      all_goals cases h

theorem follows_of_readNumeral {negative : Bool} {n : Numeral}
    (h : readNumeral negative c = .ok (n, c')) :
    n.negative = negative ∧ n.Follows c.rest c'.rest := by
  obtain ⟨⟨whole, c₁⟩, hw, h⟩ := bind_eq_ok_iff.1 h
  obtain ⟨⟨fraction, c₂⟩, hf, h⟩ := bind_eq_ok_iff.1 h
  obtain ⟨⟨exponent, c₃⟩, he, h⟩ := bind_eq_ok_iff.1 h
  cases h
  exact ⟨rfl, c₁.rest, c₂.rest, whole_of_readWhole hw, fraction_of_readFraction hf,
    exponent_of_readExponent he⟩

end Sound
end Numerals

section Strings

variable {s cs rest : List Char}

theorem readText_unit {a b c d : Char} {unit : Nat} (hu : unit? a b c d = some unit) (strict : Bool)
    (hl : (strict && isLeading unit) = false) (ht : (strict && isTrailing unit) = false)
    (cs : List Char) (offset : Nat) :
    readText strict ('\\' :: 'u' :: a :: b :: c :: d :: cs) offset =
      consChar (Char.ofNat unit) (readText strict cs (offset + 6)) := by
  rw [readText]
  simp only [hu, hl, ht, Bool.false_eq_true, if_false]

-- A reader that is not strict takes half a pair for a character, but ends at the same place.
theorem Quoted.readText_eq (h : Quoted s cs rest) (offset : Nat) :
    (∃ stop, readText true cs offset = .ok (s, ⟨stop, rest⟩)) ∧
      ∃ s' stop, readText false cs offset = .ok (s', ⟨stop, rest⟩) := by
  induction h generalizing offset
  case ended => exact ⟨⟨_, by rw [readText]⟩, _, _, by rw [readText]⟩
  case plain c s cs rest hq hb hc _ hi =>
    obtain ⟨⟨stop, ht⟩, s', stop', hf⟩ := hi (offset + c.utf8Size)
    have hr (strict : Bool) : readText strict (c :: cs) offset =
        consChar c (readText strict cs (offset + c.utf8Size)) := by
      rw [readText, if_neg hc]
      all_goals simp_all
    exact ⟨⟨stop, by rw [hr, ht]; rfl⟩, _, stop', by rw [hr, hf]; rfl⟩
  case short e c s cs rest he _ hi =>
    obtain ⟨⟨stop, ht⟩, s', stop', hf⟩ := hi (offset + 2)
    have hr (strict : Bool) : readText strict ('\\' :: e :: cs) offset =
        consChar c (readText strict cs (offset + 2)) := by
      rw [readText]
      · rw [he]
      all_goals
        intros
        simp_all [shortEscape?]
    exact ⟨⟨stop, by rw [hr, ht]; rfl⟩, _, stop', by rw [hr, hf]; rfl⟩
  case unit a b c d unit s cs rest hu hl ht _ hi =>
    obtain ⟨⟨stop, ht'⟩, s', stop', hf⟩ := hi (offset + 6)
    have hr (strict : Bool) : readText strict ('\\' :: 'u' :: a :: b :: c :: d :: cs) offset =
        consChar (Char.ofNat unit) (readText strict cs (offset + 6)) :=
      readText_unit hu strict (by simp [hl]) (by simp [ht]) cs offset
    exact ⟨⟨stop, by rw [hr, ht']; rfl⟩, _, stop', by rw [hr, hf]; rfl⟩
  case pair a b c d leading a' b' c' d' trailing s cs rest hu hl hu' ht _ hi =>
    obtain ⟨stop, ht'⟩ := (hi (offset + 12)).1
    obtain ⟨s', stop', hf⟩ := (hi (offset + 6 + 6)).2
    have hn : isTrailing leading = false := by
      simp only [isLeading, isTrailing, Bool.and_eq_true, decide_eq_true_eq] at hl ⊢
      simp; omega
    constructor
    case left =>
      exists stop
      rw [readText]
      simp only [hu, hu', hl, hn, ht, ht', Bool.and_false, Bool.and_self, if_true, consChar,
        Except.map, Bool.false_eq_true, if_false]
    case right =>
      have hr := readText_unit hu false rfl rfl
      have hr' := readText_unit hu' false rfl rfl
      refine ⟨Char.ofNat leading :: Char.ofNat trailing :: s', stop', ?_⟩
      rw [hr, hr', hf]
      simp only [consChar, Except.map]

theorem consChar_eq_ok {c : Char} {r : Except Fault (List Char × Cursor)} {cursor : Cursor}
    (h : consChar c r = .ok (s, cursor)) : ∃ s', r = .ok (s', cursor) ∧ s = c :: s' := by
  obtain ⟨⟨s', _⟩, hr, he⟩ := map_eq_ok_iff.1 h
  cases he
  exact ⟨s', hr, rfl⟩

theorem quoted_of_readText {offset : Nat} {c : Cursor} (h : readText true cs offset = .ok (s, c)) :
    Quoted s cs c.rest := by
  fun_induction readText true cs offset generalizing s c
  case case2 => cases h; exact .ended
  case case7 hu ht hl _ _ _ _ _ _ hu' ht' hi =>
    obtain ⟨s', hr, rfl⟩ := consChar_eq_ok h
    exact .pair hu (by simpa using hl) hu' ht' (hi hr)
  case case10 hu ht hl hi =>
    obtain ⟨s', hr, rfl⟩ := consChar_eq_ok h
    exact .unit hu (by simpa using hl) (by simpa using ht) (hi hr)
  case case12 he hi =>
    obtain ⟨s', hr, rfl⟩ := consChar_eq_ok h
    exact .short he (hi hr)
  case case15 cs _ hq hb _ _ hb' hc hi =>
    obtain ⟨s', hr, rfl⟩ := consChar_eq_ok h
    refine .plain hq (fun he => ?_) hc (hi hr)
    obtain ⟨e, cs', hm⟩ := List.exists_cons_of_ne_nil (hb he)
    exact hb' e cs' he hm
  all_goals cases h

end Strings

end ChainHost.Json
