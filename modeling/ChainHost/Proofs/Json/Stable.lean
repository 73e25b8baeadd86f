import ChainHost.Proofs.Json.RoundTrip

namespace ChainHost.Json

section Numbers

variable {n m : Numeral} {cs rest rest' : List Char}

-- A numeral ends where nothing would make it longer.
theorem Numeral.Begins.unique (h : n.Begins cs rest) (h' : m.Begins cs rest')
    (hr : EndsNumeral rest) (hr' : EndsNumeral rest') : n = m ∧ rest = rest' := by
  have follows {cs : List Char} (h : n.Follows cs rest) (h' : m.Follows cs rest')
      (hn : n.negative = m.negative) : n = m ∧ rest = rest' := by
    obtain ⟨stop, h⟩ := h.readNumeral_eq hr 0
    obtain ⟨stop', h'⟩ := h'.readNumeral_eq hr' 0
    rw [hn, h'] at h
    cases h
    exact ⟨rfl, rfl⟩
  have noSign {n : Numeral} {cs rest : List Char} (h : n.Follows ('-' :: cs) rest) : False := by
    obtain ⟨_, _, hw, -, -⟩ := h
    obtain ⟨d, ds, ⟨⟩, hd⟩ := hw.toDigits.head
    cases hd
  cases h
  case positive hn h =>
    cases h'
    case positive hm h' => exact follows h h' (hn.trans hm.symm)
    case negative hm h' => exact (noSign h).elim
  case negative hn h =>
    cases h'
    case positive hm h' => exact (noSign h').elim
    case negative hm h' => exact follows h h' (hn.trans hm.symm)

-- A double whose numeral is read as a number that is written with the same numeral.
theorem Number.settled_of_numeral_eq {x : Double} {y : Number} (hx : x.Canonical)
    (hy : (double x).numeral.value = .ok y) (h : (double x).numeral = y.numeral) :
    (double x).Settled := by
  rw [settled_iff]
  have hmarked := doubleNumeral_marked x
  rw [show doubleNumeral x = _ from h] at hmarked
  cases y
  case integer i => cases i <;> simp [numeral, Numeral.ofDigits] at hmarked
  case double y =>
    replace h : doubleNumeral x = doubleNumeral y := h
    have hs : x.negative = y.negative := by
      rw [← doubleNumeral_negative, h, doubleNumeral_negative]
    have hd : x.shortest.toRat = y.shortest.toRat := by
      rw [← doubleNumeral_amount, h, doubleNumeral_amount]
    obtain rfl := Double.eq_of_shortest_eq hx (Numeral.canonical_of_value hy) hs hd
    exact hy

-- A number that a text can hold.
def Number.Denoted (x : Number) : Prop :=
  ∃ n : Numeral, n.value = .ok x

theorem Number.settled_of_write_eq {x y : Number} (hx : x.Denoted) (hy : x.numeral.value = .ok y)
    (hr : EndsNumeral rest) (hr' : EndsNumeral rest') (h : x.write ++ rest = y.write ++ rest') :
    rest = rest' ∧ x.Settled := by
  obtain ⟨n, hx⟩ := hx
  obtain ⟨he, rfl⟩ := (h ▸ x.numeral_begins rest).unique (y.numeral_begins rest') hr hr'
  refine ⟨rfl, ?_⟩
  cases x
  case integer i => exact settled_of_isInteger trivial (Numeral.fits_of_value hx)
  case double z  => exact settled_of_numeral_eq (Numeral.canonical_of_value hx) hy he

end Numbers

section Values

namespace Value

variable {v w : Value} {room : ℕ} {rest rest' : List Char}

theorem endsNumeral_writeItems (items : List Value) (rest : List Char) :
    EndsNumeral (writeItems items ++ rest) := by
  cases items <;> simp [writeItems, EndsNumeral]

theorem endsNumeral_writeMembers (members : List (String × Value)) (rest : List Char) :
    EndsNumeral (writeMembers members ++ rest) := by
  cases members <;> simp [writeMembers, EndsNumeral]

-- If what is read from the text of the value is written like the value, all numbers have been read
-- back, and the text ends where that of the value does.
def SettledByText (v : Value) : Prop :=
  ∀ ⦃room w rest rest'⦄, v.Readable room → (∀ n ∈ v.numbers, n.Denoted) → v.tree.Denotes room w →
    EndsNumeral rest → EndsNumeral rest' → v.write ++ rest = w.write ++ rest' →
      rest = rest' ∧ ∀ n ∈ v.numbers, n.Settled

theorem settled_of_writeItems {items ws : List Value} (hi : ∀ v ∈ items, v.SettledByText)
    (hv : ∀ v ∈ items, v.Readable room) (hn : ∀ v ∈ items, ∀ n ∈ v.numbers, n.Denoted)
    (hd : List.Forall₂ (Tree.Denotes room) (items.map tree) ws)
    (h : writeItems items ++ rest = writeItems ws ++ rest') :
    rest = rest' ∧ ∀ v ∈ items, ∀ n ∈ v.numbers, n.Settled := by
  induction items generalizing ws
  case nil =>
    cases hd
    simpa [writeItems] using h
  case cons v items hitems =>
    cases hd
    case cons w ws hw hd =>
      obtain ⟨hi, his⟩ := List.forall_mem_cons.1 hi
      obtain ⟨hv, hvs⟩ := List.forall_mem_cons.1 hv
      obtain ⟨hn, hns⟩ := List.forall_mem_cons.1 hn
      simp only [writeItems, List.cons_append, List.append_assoc, List.cons.injEq, true_and] at h
      obtain ⟨h, hs⟩ := hi hv hn hw (endsNumeral_writeItems items rest)
        (endsNumeral_writeItems ws rest') h
      obtain ⟨h, hss⟩ := hitems his hvs hns hd h
      exact ⟨h, List.forall_mem_cons.2 ⟨hs, hss⟩⟩

theorem settled_of_writeMembers {members ws : List (String × Value)}
    (hi : ∀ m ∈ members, m.2.SettledByText) (hv : ∀ m ∈ members, m.2.Readable room)
    (hn : ∀ m ∈ members, ∀ n ∈ m.2.numbers, n.Denoted)
    (hd : Keyed (Tree.Denotes room) (members.map fun m => (m.1, m.2.tree)) ws)
    (h : writeMembers members ++ rest = writeMembers ws ++ rest') :
    rest = rest' ∧ ∀ m ∈ members, ∀ n ∈ m.2.numbers, n.Settled := by
  induction members generalizing ws
  case nil =>
    cases hd
    simpa [writeMembers] using h
  case cons m members hmembers =>
    cases hd
    case cons w ws hw hd =>
      obtain ⟨hi, his⟩ := List.forall_mem_cons.1 hi
      obtain ⟨hv, hvs⟩ := List.forall_mem_cons.1 hv
      obtain ⟨hn, hns⟩ := List.forall_mem_cons.1 hn
      obtain ⟨hkey, hw⟩ := hw
      obtain ⟨key, w⟩ := w
      obtain rfl : key = m.1 := hkey
      simp only [writeMembers, List.cons_append, List.append_assoc, List.cons.injEq, true_and,
        List.append_cancel_left_eq] at h
      obtain ⟨h, hs⟩ := hi hv hn hw (endsNumeral_writeMembers members rest)
        (endsNumeral_writeMembers ws rest') h
      obtain ⟨h, hss⟩ := hmembers his hvs hns hd h
      exact ⟨h, List.forall_mem_cons.2 ⟨hs, hss⟩⟩

theorem settledByText (v : Value) : v.SettledByText := by
  induction v using Value.induction
  all_goals intro room w rest rest' hv hn hd hr hr' h
  case null =>
    obtain rfl : w = .null := by cases room <;> exact hd
    simpa [numbers] using h
  case bool b =>
    obtain rfl : w = .bool b := by cases room <;> exact hd
    simpa [numbers] using h
  case string s =>
    obtain rfl : w = .string s := by cases room <;> exact hd
    simpa [numbers] using h
  case number x =>
    obtain ⟨y, hy, rfl⟩ : ∃ y, x.numeral.value = .ok y ∧ w = .number y := by
      cases room <;> exact hd
    obtain ⟨h, hs⟩ := Number.settled_of_write_eq (hn x (by simp [numbers])) hy hr hr' h
    exact ⟨h, by simpa [numbers] using hs⟩
  case array items hi =>
    cases room
    case zero => cases hv
    case succ room =>
      rw [tree_array] at hd
      obtain ⟨ws, hd, rfl⟩ := hd
      have h : writeItems items ++ rest = writeItems ws ++ rest' := by
        cases items <;> cases hd <;> simpa [write, writeItems] using h
      obtain ⟨h, hs⟩ := settled_of_writeItems hi hv
        (fun v h n hm => hn n (mem_numbers_array.2 ⟨v, h, hm⟩)) hd h
      refine ⟨h, fun n hm => ?_⟩
      obtain ⟨v, h, hm⟩ := mem_numbers_array.1 hm
      exact hs v h n hm
  case object members hi =>
    cases room
    case zero => cases hv
    case succ room =>
      rw [tree_object] at hd
      obtain ⟨ws, hd, rfl⟩ := hd
      have hsorted : SortedKeys ws := by
        have hk := keys_of_forall₂ (R := fun _ => Tree.Denotes room) hd
        rw [SortedKeys, hk]
        simpa [SortedKeys, Function.comp_def] using hv.1
      rw [hsorted.sortMembers_eq] at h
      have h : writeMembers members ++ rest = writeMembers ws ++ rest' := by
        cases members <;> cases hd <;> simpa [write, writeMembers] using h
      obtain ⟨h, hs⟩ := settled_of_writeMembers hi hv.2
        (fun m h n hm => hn n (mem_numbers_object.2 ⟨m, h, hm⟩)) hd h
      refine ⟨h, fun n hm => ?_⟩
      obtain ⟨m, h, hm⟩ := mem_numbers_object.1 hm
      exact hs m h n hm

theorem canonical_of_ofText {raw : String} (h : ofText raw = .ok v) {x : Double}
    (hx : .double x ∈ v.numbers) : x.Canonical := by
  obtain ⟨t, ht⟩ := exists_hasText h
  obtain ⟨n, hn⟩ := ((anyValue_makes.ofText_eq_ok_iff ht).1 h).exists_numeral hx
  exact Numeral.canonical_of_value hn

-- The text of a value is read and written again as itself just if every double of the value is read
-- back.
theorem rewritten_iff {raw : String} (h : ofText raw = .ok v) :
    (∃ w, ofText v.text = .ok w ∧ w.text = v.text) ↔
      ∀ x, .double x ∈ v.numbers → (Number.double x).Settled := by
  obtain ⟨t, ht⟩ := exists_hasText h
  have hd := (anyValue_makes.ofText_eq_ok_iff ht).1 h
  constructor
  case mp =>
    rintro ⟨w, hw, he⟩ x hx
    have he : v.write ++ [] = w.write ++ [] := by
      rw [List.append_nil, List.append_nil]
      exact (String.ofList_injective he).symm
    have hends : EndsNumeral [] := by simp [EndsNumeral]
    exact (v.settledByText hd.readable (fun n hn => hd.exists_numeral hn) (ofText_text_iff.1 hw)
      hends hends he).2 _ hx
  case mpr =>
    intro hs
    refine ⟨v, ofText_text_iff.2 (denotes_tree hd.readable fun n hn => ?_), rfl⟩
    cases n
    case double x  => exact hs x hn
    case integer i => exact Number.settled_of_isInteger trivial (hd.readable.fits hn)

end Value
end Values
end ChainHost.Json
