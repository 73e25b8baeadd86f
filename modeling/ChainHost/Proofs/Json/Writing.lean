import ChainHost.Json.Printer
import ChainHost.Proofs.Json.Doubles
import ChainHost.Proofs.Json.Grammar
import ChainHost.Proofs.Json.Values

namespace ChainHost.Json

section Digits

variable {cs rest : List Char}

theorem digits_append (hn : cs ≠ []) (hd : ∀ c ∈ cs, c.isDigit) :
    Digits (cs.map digitValue) (cs ++ rest) rest := by
  induction cs
  case nil => exact absurd rfl hn
  case cons c cs hi =>
    obtain ⟨hc, hd⟩ := List.forall_mem_cons.1 hd
    cases cs
    case nil  => exact .last hc
    case cons => exact .cons hc (hi (by simp) hd)

theorem whole_append (hn : cs ≠ []) (hd : ∀ c ∈ cs, c.isDigit)
    (hz : cs.head? = some '0' → cs = ['0']) : Whole (cs.map digitValue) (cs ++ rest) rest := by
  cases cs
  case nil => exact absurd rfl hn
  case cons c cs =>
    by_cases hc : c = '0'
    case neg => exact .digits hc (digits_append hn hd)
    case pos =>
      subst hc
      cases hz rfl
      exact .zero

theorem digitsOf_ne_nil (n : ℕ) : digitsOf n ≠ [] :=
  Nat.toDigits_ne_nil

theorem digits_digitsOf (n : ℕ) (rest : List Char) :
    Digits ((digitsOf n).map digitValue) (digitsOf n ++ rest) rest :=
  digits_append (digitsOf_ne_nil n) isDigit_of_mem_digitsOf

theorem whole_digitsOf (n : ℕ) (rest : List Char) :
    Whole ((digitsOf n).map digitValue) (digitsOf n ++ rest) rest := by
  refine whole_append (digitsOf_ne_nil n) isDigit_of_mem_digitsOf fun h => ?_
  rcases Nat.eq_zero_or_pos n with rfl | hn
  case inl => rfl
  case inr => exact absurd h (head?_digitsOf_ne hn.ne')

end Digits

section Numerals

variable {n : ℕ} {exponent : ℤ} {negative : Bool} {rest : List Char}

-- The numeral that `writePositional` writes, after its sign.
def positionalNumeral (negative : Bool) (digits : List Char) (exponent : ℤ) : Numeral :=
  if exponent < 0 then
    ⟨negative, [0],
      some ((List.replicate ((-exponent).toNat - 1) '0' ++ digits).map digitValue), none⟩
  else
    let size := exponent.toNat + 1
    let fraction := digits.drop size
    ⟨negative, (digits.take size ++ List.replicate (size - digits.length) '0').map digitValue,
      some ((if fraction.isEmpty then ['0'] else fraction).map digitValue), none⟩

-- The numeral that `writeScientific` writes, after its sign.
def scientificNumeral (negative : Bool) (digits : List Char) (exponent : ℤ) : Numeral :=
  ⟨negative, (digits.take 1).map digitValue,
    if (digits.drop 1).isEmpty then none else some ((digits.drop 1).map digitValue),
    some (exponent < 0, (digitsOf exponent.natAbs).map digitValue)⟩

-- The numeral as which a double is written.
def doubleNumeral (x : Double) : Numeral :=
  let d := x.shortest
  let digits := digitsOf d.digits
  let exponent := d.exponent + (digits.length : ℤ) - 1
  if positional exponent then positionalNumeral x.negative digits exponent
  else scientificNumeral x.negative digits exponent

def Number.numeral : Number → Numeral
  | integer (.ofNat n)   => .ofDigits false n
  | integer (.negSucc n) => .ofDigits true (n + 1)
  | double x             => doubleNumeral x

-- What is true of both forms is true of the numeral of a double.
theorem doubleNumeral_eq_or (x : Double) :
    ∃ exponent : ℤ, exponent - (digitsOf x.shortest.digits).length + 1 = x.shortest.exponent ∧
      (doubleNumeral x = positionalNumeral x.negative (digitsOf x.shortest.digits) exponent ∨
        doubleNumeral x = scientificNumeral x.negative (digitsOf x.shortest.digits) exponent) := by
  refine ⟨x.shortest.exponent + (digitsOf x.shortest.digits).length - 1, by ring, ?_⟩
  unfold doubleNumeral
  dsimp only
  split
  case isTrue  => exact .inl rfl
  case isFalse => exact .inr rfl

theorem positionalNumeral_exponent (digits : List Char) :
    (positionalNumeral negative digits exponent).exponent = none := by
  unfold positionalNumeral
  split <;> rfl

theorem positionalNumeral_negative (digits : List Char) :
    (positionalNumeral negative digits exponent).negative = negative := by
  unfold positionalNumeral
  split <;> rfl

-- Digits before the point are filled up with zeros, but zero itself is not.
theorem whole_take (h : n = 0 → exponent ≤ 0) (he : ¬exponent < 0) :
    Whole (((digitsOf n).take (exponent.toNat + 1) ++
        List.replicate (exponent.toNat + 1 - (digitsOf n).length) '0').map digitValue)
      ((digitsOf n).take (exponent.toNat + 1) ++
        (List.replicate (exponent.toNat + 1 - (digitsOf n).length) '0' ++ rest)) rest := by
  rw [← List.append_assoc]
  refine whole_append (by simp [digitsOf_ne_nil]) (fun c hc => ?digits) fun hz => ?zero
  case digits =>
    rcases List.mem_append.1 hc with hc | hc
    case inl => exact isDigit_of_mem_digitsOf c (List.mem_of_mem_take hc)
    case inr => rw [List.eq_of_mem_replicate hc]; rfl
  case zero =>
    rcases Nat.eq_zero_or_pos n with rfl | hn
    case inl =>
      obtain rfl : exponent = 0 := by omega
      rfl
    case inr =>
      refine absurd ?_ (head?_digitsOf_ne hn.ne')
      obtain ⟨d, ds, hd, -⟩ := exists_digitsOf_eq_cons n
      simpa [hd] using hz

theorem positionalNumeral_follows (h : n = 0 → exponent ≤ 0) :
    (positionalNumeral negative (digitsOf n) exponent).Follows
      (writePositional (digitsOf n) exponent ++ rest) rest := by
  unfold positionalNumeral writePositional
  have hdigits := isDigit_of_mem_digitsOf (n := n)
  split
  case isTrue =>
    refine ⟨_, rest, .zero, .some (digits_append ?nonempty fun c hc => ?digits), .none⟩
    case nonempty => simp [digitsOf_ne_nil]
    case digits =>
      rcases List.mem_append.1 hc with hc | hc
      case inl => rw [List.eq_of_mem_replicate hc]; rfl
      case inr => exact hdigits c hc
  case isFalse he =>
    simp only [List.append_assoc, List.cons_append]
    refine ⟨_, rest, whole_take h he, .some (digits_append ?nonempty fun c hc => ?digits), .none⟩
    case nonempty => split <;> simp_all
    case digits =>
      split at hc
      case isTrue  => cases List.mem_singleton.1 hc; rfl
      case isFalse => exact hdigits c (List.mem_of_mem_drop hc)

theorem sign_writeScientific (exponent : ℤ) {ds : List ℕ} {cs : List Char} (h : Digits ds cs rest) :
    Exponent (some (exponent < 0, ds)) ('e' :: (if exponent < 0 then '-' else '+') :: cs) rest := by
  split
  case isTrue he  => exact .some (.inl rfl) (decide_eq_true he ▸ .minus) h
  case isFalse he => exact .some (.inl rfl) (decide_eq_false he ▸ .plus) h

theorem scientificNumeral_follows :
    (scientificNumeral negative (digitsOf n) exponent).Follows
      (writeScientific (digitsOf n) exponent ++ rest) rest := by
  have hexponent := sign_writeScientific exponent (digits_digitsOf exponent.natAbs rest)
  have hdigits := isDigit_of_mem_digitsOf (n := n)
  have hwhole := whole_digitsOf n
    ('e' :: (if exponent < 0 then '-' else '+') :: (digitsOf exponent.natAbs ++ rest))
  unfold scientificNumeral writeScientific
  obtain ⟨d, ds, hd, hdigit⟩ := exists_digitsOf_eq_cons n
  rw [hd] at hwhole hdigits ⊢
  simp only [List.append_assoc, List.cons_append]
  cases ds
  case nil => exact ⟨_, _, by simpa using hwhole, .none, by simpa using hexponent⟩
  case cons e es =>
    have hz : d ≠ '0' := by
      rintro rfl
      exact digitsOf_ne_zero_cons n e es hd
    obtain ⟨-, hdigits⟩ := List.forall_mem_cons.1 hdigits
    exact ⟨_, _, .digits hz (.last hdigit), .some (digits_append (List.cons_ne_nil e es) hdigits),
      by simpa using hexponent⟩

theorem Numeral.Follows.begins {m : Numeral} {cs : List Char} (h : m.Follows (cs ++ rest) rest)
    (hn : m.negative = negative) : m.Begins ((if negative then '-' :: cs else cs) ++ rest) rest := by
  cases negative
  case false => exact .positive hn h
  case true  => exact .negative hn h

theorem doubleNumeral_begins (x : Double) :
    (doubleNumeral x).Begins (writeDouble x ++ rest) rest := by
  have hz : x.shortest.digits = 0 →
      x.shortest.exponent + ((digitsOf x.shortest.digits).length : ℤ) - 1 ≤ 0 := fun h => by
    simp [h, Double.exponent_shortest_eq_zero h, digitsOf]
  unfold doubleNumeral writeDouble
  dsimp only
  generalize x.shortest.digits = n at *
  generalize x.shortest.exponent + ((digitsOf n).length : ℤ) - 1 = exponent at *
  split
  case isTrue  => exact (positionalNumeral_follows hz).begins (positionalNumeral_negative _)
  case isFalse => exact scientificNumeral_follows.begins rfl

theorem Number.numeral_begins (x : Number) (rest : List Char) :
    x.numeral.Begins (x.write ++ rest) rest := by
  cases x
  case double x => exact doubleNumeral_begins x
  case integer i =>
    cases i
    case ofNat n   => exact .positive rfl ⟨_, _, whole_digitsOf n rest, .none, .none⟩
    case negSucc n => exact .negative rfl ⟨_, _, whole_digitsOf (n + 1) rest, .none, .none⟩

end Numerals

section Amounts

variable {n : ℕ} {exponent : ℤ} {negative : Bool}

theorem foldl_replicate_zero (m k : ℕ) :
    (List.replicate k 0).foldl (fun m d => m * 10 + d) m = m * 10 ^ k := by
  induction k generalizing m
  case zero      => simp
  case succ k hi => rw [List.replicate_succ, List.foldl_cons, hi, Nat.pow_succ']; ring

theorem map_digitValue_replicate (k : ℕ) :
    (List.replicate k '0').map digitValue = List.replicate k 0 := by
  rw [List.map_replicate]
  rfl

-- What the digits of a numeral amount to, where the first of them stands for `10 ^ exponent`.
theorem positionalNumeral_amount (n : ℕ) (exponent : ℤ) (negative : Bool) :
    ((positionalNumeral negative (digitsOf n) exponent).significand : ℚ) *
        10 ^ (positionalNumeral negative (digitsOf n) exponent).power =
      n * 10 ^ (exponent - (digitsOf n).length + 1) := by
  have hlen : 0 < (digitsOf n).length := List.length_pos_of_ne_nil (digitsOf_ne_nil n)
  have hfold := foldl_digitsOf n
  by_cases he : exponent < 0
  case pos =>
    simp only [positionalNumeral, if_pos he, Numeral.significand, Numeral.power,
      Numeral.exponentSize, Option.getD_some, Option.elim_none, List.map_append,
      map_digitValue_replicate, List.cons_append, List.nil_append, List.foldl_cons,
      List.foldl_append, foldl_replicate_zero, Nat.zero_mul, Nat.add_zero, hfold]
    congr 2
    simp only [Numeral.signed, Bool.false_eq_true, if_false, List.foldl_nil, Nat.cast_zero,
      List.length_append, List.length_replicate, List.length_map]
    omega
  case neg =>
    simp only [positionalNumeral, if_neg he, Numeral.significand, Numeral.power,
      Numeral.exponentSize, Option.getD_some, Option.elim_none]
    rcases Nat.lt_or_ge (exponent.toNat + 1) (digitsOf n).length with hlt | hle
    case inl =>
      have hdrop : ((digitsOf n).drop (exponent.toNat + 1)).isEmpty = false := by simpa using hlt
      rw [Nat.sub_eq_zero_of_le hlt.le, List.replicate_zero, List.append_nil, hdrop,
        if_neg Bool.false_ne_true, ← List.map_append, List.take_append_drop, hfold]
      congr 2
      simp only [Numeral.signed, Bool.false_eq_true, if_false, List.foldl_nil, Nat.cast_zero,
        List.map_drop, List.length_drop, List.length_map]
      omega
    case inr =>
      have hdrop := List.drop_eq_nil_of_le hle
      obtain ⟨k, hk⟩ : ∃ k, exponent.toNat + 1 = (digitsOf n).length + k :=
        ⟨_, (Nat.add_sub_of_le hle).symm⟩
      have hpow : exponent - (digitsOf n).length + 1 = k := by omega
      rw [hdrop, List.take_of_length_le hle, hk, Nat.add_sub_cancel_left, List.map_append,
        map_digitValue_replicate, List.append_assoc, List.foldl_append, hfold, List.foldl_append,
        foldl_replicate_zero, hpow]
      simp [Numeral.signed, digitValue]

theorem scientificNumeral_fraction (digits : List Char) :
    (scientificNumeral negative digits exponent).fraction.getD [] =
      (digits.drop 1).map digitValue := by
  simp only [scientificNumeral]
  split
  case isTrue h => simp [List.isEmpty_iff.1 h]
  case isFalse  => rfl

theorem scientificNumeral_significand (n : ℕ) (exponent : ℤ) (negative : Bool) :
    (scientificNumeral negative (digitsOf n) exponent).significand = n := by
  rw [Numeral.significand, scientificNumeral_fraction, scientificNumeral, ← List.map_append,
    List.take_append_drop, foldl_digitsOf]

theorem scientificNumeral_exponentSize (n : ℕ) (exponent : ℤ) (negative : Bool) :
    (scientificNumeral negative (digitsOf n) exponent).exponentSize = exponent.natAbs := by
  simp [scientificNumeral, Numeral.exponentSize, foldl_digitsOf]

theorem scientificNumeral_power (n : ℕ) (exponent : ℤ) (negative : Bool) :
    (scientificNumeral negative (digitsOf n) exponent).power =
      exponent - (digitsOf n).length + 1 := by
  have hlen : 0 < (digitsOf n).length := List.length_pos_of_ne_nil (digitsOf_ne_nil n)
  have hsigned : Numeral.signed (exponent < 0) exponent.natAbs = exponent := by
    simp only [Numeral.signed, decide_eq_true_eq]
    split <;> omega
  rw [Numeral.power, scientificNumeral_fraction, scientificNumeral_exponentSize]
  simp only [scientificNumeral, Option.elim_some, hsigned, List.length_map, List.length_drop]
  omega

theorem doubleNumeral_amount (x : Double) :
    ((doubleNumeral x).significand : ℚ) * 10 ^ (doubleNumeral x).power = x.shortest.toRat := by
  obtain ⟨exponent, he, h | h⟩ := doubleNumeral_eq_or x
  case inl => rw [h, positionalNumeral_amount, he, Decimal.toRat]
  case inr => rw [h, scientificNumeral_significand, scientificNumeral_power, he, Decimal.toRat]

end Amounts

section Strings

variable {rest : List Char}

theorem hexValue?_hexDigit : ∀ n < 16, Unicode.CharSet.hexValue? (hexDigit n) = some n := by
  decide

theorem unit?_hexDigit {n : ℕ} (h : n < 0x20) :
    unit? '0' '0' (hexDigit (n / 16)) (hexDigit (n % 16)) = some n := by
  have h0 : Unicode.CharSet.hexValue? '0' = some 0 := hexValue?_hexDigit 0 (by decide)
  have h1 := hexValue?_hexDigit (n / 16) (by omega)
  have h2 := hexValue?_hexDigit (n % 16) (by omega)
  simp only [unit?, h0, h1, h2, bind, Option.bind, pure, Option.some.injEq]
  omega

-- Whatever form a character has inside quotes, it stands for the character.
theorem Quoted.escape {s cs : List Char} (h : Quoted s cs rest) (c : Char) :
    Quoted (c :: s) (escape c ++ cs) rest := by
  unfold Json.escape
  split
  case h_8 hq hb _ _ _ _ _ =>
    split
    case isTrue hc =>
      have ht : isTrailing c.toNat = false := by simp [isTrailing]; omega
      have hl : isLeading c.toNat = false := by simp [isLeading]; omega
      have hu := unit?_hexDigit hc
      simpa using Quoted.unit hu hl ht h
    case isFalse hc => exact .plain hq hb hc h
  all_goals exact .short rfl h

theorem quoted_flatMap_escape (s rest : List Char) :
    Quoted s (s.flatMap escape ++ '"' :: rest) rest := by
  induction s
  case nil => exact .ended
  case cons c s hi =>
    rw [List.flatMap_cons, List.append_assoc]
    exact hi.escape c

end Strings

section Trees

namespace Value

mutual

-- The tree that a value is written as.
def tree : Value → Tree
  | null           => .null
  | bool b         => .bool b
  | number n       => .number n.numeral
  | string s       => .string s
  | array items    => .array (treesOfItems items)
  | object members => .object (treesOfMembers members)

def treesOfItems : List Value → List Tree
  | []            => []
  | item :: items => item.tree :: treesOfItems items

def treesOfMembers : List (String × Value) → List (String × Tree)
  | []                      => []
  | (key, value) :: members => (key, value.tree) :: treesOfMembers members

end

theorem tree_array (items : List Value) : (array items).tree = .array (items.map tree) := by
  rw [tree]
  congr 1
  induction items
  case nil             => rfl
  case cons v items hi => rw [treesOfItems, hi, List.map_cons]

theorem tree_object (members : List (String × Value)) :
    (object members).tree = .object (members.map fun m => (m.1, m.2.tree)) := by
  rw [tree]
  congr 1
  induction members
  case nil               => rfl
  case cons m members hi => rw [treesOfMembers, hi, List.map_cons]

-- The text of a value is a text of its tree, whatever follows it.
def WritesTree (v : Value) : Prop :=
  ∀ rest, v.tree.Begins (v.write ++ rest) rest

theorem begin_items {item : Value} {items : List Value} (h : ∀ v ∈ item :: items, v.WritesTree)
    (rest : List Char) :
    Items.Begin ((item :: items).map tree) (item.write ++ (writeItems items ++ rest)) rest := by
  induction items generalizing item
  case nil => exact .last (h item List.mem_cons_self _) .none
  case cons next items hi =>
    obtain ⟨hv, h⟩ := List.forall_mem_cons.1 h
    refine .cons (hv _) ?_ .none (hi h)
    rw [writeItems, List.cons_append, List.append_assoc]
    exact .none

theorem begins_member {m : String × Value} (h : m.2.WritesTree) (rest : List Char) :
    Member.Begins (m.1, m.2.tree) (writeString m.1 ++ ':' :: (m.2.write ++ rest)) rest := by
  have hq := quoted_flatMap_escape m.1.toList (':' :: (m.2.write ++ rest))
  rw [writeString, List.cons_append, List.append_assoc, List.singleton_append]
  rw [← m.1.ofList_toList]
  simpa using Member.Begins.intro hq .none .none (h rest)

theorem begin_members {m : String × Value} {members : List (String × Value)}
    (h : ∀ m' ∈ m :: members, m'.2.WritesTree) (rest : List Char) :
    Members.Begin ((m :: members).map fun m => (m.1, m.2.tree))
      (writeString m.1 ++ ':' :: (m.2.write ++ (writeMembers members ++ rest))) rest := by
  induction members generalizing m
  case nil => exact .last (begins_member (h m List.mem_cons_self) _) .none
  case cons next members hi =>
    obtain ⟨hv, h⟩ := List.forall_mem_cons.1 h
    refine .cons (begins_member hv _) ?_ .none (hi h)
    rw [writeMembers]
    simpa using .none

theorem writesTree (v : Value) : v.WritesTree := by
  induction v using Value.induction
  all_goals intro rest
  case null     => exact .null
  case bool b   => cases b <;> constructor
  case number n => exact .number (n.numeral_begins rest)
  case string s =>
    have hq := quoted_flatMap_escape s.toList rest
    simpa [write, writeString, tree] using Tree.Begins.string hq
  case array items hi =>
    rw [tree_array]
    cases items
    case nil => exact .empty .none
    case cons item items =>
      rw [write, List.cons_append, List.append_assoc]
      exact .array .none (begin_items hi rest)
  case object members hm =>
    rw [tree_object]
    cases members
    case nil => exact .bare .none
    case cons m members =>
      rw [write]
      simpa using Tree.Begins.object .none (begin_members hm rest)

theorem hasText_text (v : Value) : v.tree.HasText v.text := by
  refine ⟨v.write, [], ?_, ?_, .none⟩
  case refine_1 => rw [text, String.toList_ofList]; exact .none
  case refine_2 => simpa using v.writesTree []

end Value
end Trees
end ChainHost.Json
