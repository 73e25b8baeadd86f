import Mathlib.Order.Nat
import ChainHost.Json.Reader

namespace ChainHost.Json

inductive Tree where
  | null
  | bool (value : Bool)
  | number (numeral : Numeral)
  | string (value : String)
  | array (items : List Tree)
  | object (members : List (String × Tree))

section Grammar

inductive Blanks : List Char → List Char → Prop
  | none {rest} : Blanks rest rest
  | cons {c cs rest} (h : isSpace c) (hr : Blanks cs rest) : Blanks (c :: cs) rest

inductive Digits : List Nat → List Char → List Char → Prop
  | last {c rest} (h : c.isDigit) : Digits [digitValue c] (c :: rest) rest
  | cons {c ds cs rest} (h : c.isDigit) (hr : Digits ds cs rest) :
    Digits (digitValue c :: ds) (c :: cs) rest

-- No zero stands before another digit.
inductive Whole : List Nat → List Char → List Char → Prop
  | zero {rest} : Whole [digitValue '0'] ('0' :: rest) rest
  | digits {c ds cs rest} (hc : c ≠ '0') (h : Digits ds (c :: cs) rest) : Whole ds (c :: cs) rest

inductive Fraction : Option (List Nat) → List Char → List Char → Prop
  | none {rest} : Fraction none rest rest
  | some {ds cs rest} (h : Digits ds cs rest) : Fraction (some ds) ('.' :: cs) rest

inductive Sign : Bool → List Char → List Char → Prop
  | none {rest}  : Sign false rest rest
  | plus {rest}  : Sign false ('+' :: rest) rest
  | minus {rest} : Sign true ('-' :: rest) rest

inductive Exponent : Option (Bool × List Nat) → List Char → List Char → Prop
  | none {rest} : Exponent none rest rest
  | some {e negative ds cs cs' rest} (he : e = 'e' ∨ e = 'E') (hs : Sign negative cs cs')
      (hd : Digits ds cs' rest) : Exponent (some (negative, ds)) (e :: cs) rest

-- A numeral after its sign.
def Numeral.Follows (n : Numeral) (cs rest : List Char) : Prop :=
  ∃ cs₁ cs₂, Whole n.whole cs cs₁ ∧ Fraction n.fraction cs₁ cs₂ ∧ Exponent n.exponent cs₂ rest

inductive Numeral.Begins : Numeral → List Char → List Char → Prop
  | positive {n cs rest} (hn : n.negative = false) (h : n.Follows cs rest) : Begins n cs rest
  | negative {n cs rest} (hn : n.negative = true) (h : n.Follows cs rest) :
    Begins n ('-' :: cs) rest

-- A string after its opening quote, with the closing one.
inductive Quoted : List Char → List Char → List Char → Prop
  | ended {rest} : Quoted [] ('"' :: rest) rest
  | plain {c s cs rest} (hq : c ≠ '"') (hb : c ≠ '\\') (hc : ¬c.toNat < 0x20)
      (h : Quoted s cs rest) : Quoted (c :: s) (c :: cs) rest
  | short {e c s cs rest} (he : shortEscape? e = some c) (h : Quoted s cs rest) :
    Quoted (c :: s) ('\\' :: e :: cs) rest
  | unit {a b c d unit s cs rest} (hu : unit? a b c d = some unit) (hl : isLeading unit = false)
      (ht : isTrailing unit = false) (h : Quoted s cs rest) :
    Quoted (Char.ofNat unit :: s) ('\\' :: 'u' :: a :: b :: c :: d :: cs) rest
  | pair {a b c d leading a' b' c' d' trailing s cs rest} (hu : unit? a b c d = some leading)
      (hl : isLeading leading) (hu' : unit? a' b' c' d' = some trailing) (ht : isTrailing trailing)
      (h : Quoted s cs rest) :
    Quoted (ofPair leading trailing :: s)
      ('\\' :: 'u' :: a :: b :: c :: d :: '\\' :: 'u' :: a' :: b' :: c' :: d' :: cs) rest

mutual

inductive Tree.Begins : Tree → List Char → List Char → Prop
  | null {rest} : Tree.Begins .null ('n' :: 'u' :: 'l' :: 'l' :: rest) rest
  | yes {rest} : Tree.Begins (.bool true) ('t' :: 'r' :: 'u' :: 'e' :: rest) rest
  | no {rest} : Tree.Begins (.bool false) ('f' :: 'a' :: 'l' :: 's' :: 'e' :: rest) rest
  | number {n cs rest} (h : n.Begins cs rest) : Tree.Begins (.number n) cs rest
  | string {s cs rest} (h : Quoted s cs rest) :
    Tree.Begins (.string (String.ofList s)) ('"' :: cs) rest
  | empty {cs rest} (hb : Blanks cs (']' :: rest)) : Tree.Begins (.array []) ('[' :: cs) rest
  | array {items cs cs' rest} (hb : Blanks cs cs') (h : Items.Begin items cs' rest) :
    Tree.Begins (.array items) ('[' :: cs) rest
  | bare {cs rest} (hb : Blanks cs ('}' :: rest)) : Tree.Begins (.object []) ('{' :: cs) rest
  | object {members cs cs' rest} (hb : Blanks cs cs') (h : Members.Begin members cs' rest) :
    Tree.Begins (.object members) ('{' :: cs) rest

-- The items of an array, with its closing bracket.
inductive Items.Begin : List Tree → List Char → List Char → Prop
  | last {t cs cs' rest} (h : Tree.Begins t cs cs') (hb : Blanks cs' (']' :: rest)) :
    Items.Begin [t] cs rest
  | cons {t ts cs cs' cs₁ cs₂ rest} (h : Tree.Begins t cs cs') (hb : Blanks cs' (',' :: cs₁))
      (hb' : Blanks cs₁ cs₂) (hr : Items.Begin ts cs₂ rest) : Items.Begin (t :: ts) cs rest

-- A member of an object: its key, a colon and its value.
inductive Member.Begins : String × Tree → List Char → List Char → Prop
  | intro {key t cs cs₁ cs₂ cs₃ rest} (hk : Quoted key cs cs₁) (hb : Blanks cs₁ (':' :: cs₂))
      (hb' : Blanks cs₂ cs₃) (h : Tree.Begins t cs₃ rest) :
    Member.Begins (String.ofList key, t) ('"' :: cs) rest

-- The members of an object, with its closing brace.
inductive Members.Begin : List (String × Tree) → List Char → List Char → Prop
  | last {m cs cs' rest} (h : Member.Begins m cs cs') (hb : Blanks cs' ('}' :: rest)) :
    Members.Begin [m] cs rest
  | cons {m ms cs cs' cs₁ cs₂ rest} (h : Member.Begins m cs cs') (hb : Blanks cs' (',' :: cs₁))
      (hb' : Blanks cs₁ cs₂) (hr : Members.Begin ms cs₂ rest) : Members.Begin (m :: ms) cs rest

end

-- A text of a tree: the tree with blanks around it.
def Tree.HasText (t : Tree) (text : String) : Prop :=
  ∃ cs rest, Blanks text.toList cs ∧ t.Begins cs rest ∧ Blanks rest []

end Grammar

-- A string in which no character needs to be escaped.
theorem quoted_plain {s rest : List Char} (h : ∀ c ∈ s, c ≠ '"' ∧ c ≠ '\\' ∧ ¬c.toNat < 0x20) :
    Quoted s (s ++ '"' :: rest) rest := by
  induction s
  case nil => exact .ended
  case cons c s hi =>
    obtain ⟨⟨hq, hb, hc⟩, hs⟩ := List.forall_mem_cons.1 h
    exact .plain hq hb hc (hi hs)

-- A number of one digit.
theorem digit_plain {d : Nat} {rest : List Char} (c : Char) (hd : digitValue c = d)
    (h : c.isDigit) (hc : c ≠ '0') :
    Tree.Begins (.number ⟨false, [d], none, none⟩) (c :: rest) rest :=
  .number (.positive rfl ⟨_, _, .digits hc (hd ▸ .last h), .none, .none⟩)

section Lengths

variable {cs rest : List Char}

theorem Whole.toDigits {ds : List Nat} (h : Whole ds cs rest) : Digits ds cs rest := by
  cases h
  case zero     => exact .last rfl
  case digits h => exact h

theorem Blanks.length_le (h : Blanks cs rest) : rest.length ≤ cs.length := by
  induction h
  case none         => exact Nat.le_refl _
  case cons _ _ hi => exact Nat.le_succ_of_le hi

theorem Digits.length_lt {ds : List Nat} (h : Digits ds cs rest) : rest.length < cs.length := by
  induction h <;> simp only [List.length_cons] <;> omega

theorem Fraction.length_le {fraction : Option (List Nat)} (h : Fraction fraction cs rest) :
    rest.length ≤ cs.length := by
  cases h
  case none   => exact Nat.le_refl _
  case some h => exact Nat.le_succ_of_le h.length_lt.le

theorem Sign.length_le {negative : Bool} (h : Sign negative cs rest) :
    rest.length ≤ cs.length := by
  cases h <;> simp

theorem Exponent.length_le {exponent : Option (Bool × List Nat)} (h : Exponent exponent cs rest) :
    rest.length ≤ cs.length := by
  cases h
  case none         => exact Nat.le_refl _
  case some he hs h => exact Nat.le_succ_of_le (h.length_lt.le.trans hs.length_le)

theorem Numeral.Begins.length_lt {n : Numeral} (h : n.Begins cs rest) :
    rest.length < cs.length := by
  have follows {cs rest : List Char} (h : n.Follows cs rest) : rest.length < cs.length := by
    obtain ⟨cs₁, cs₂, hw, hf, he⟩ := h
    exact (he.length_le.trans hf.length_le).trans_lt hw.toDigits.length_lt
  cases h
  case positive h => exact follows h
  case negative h => exact Nat.lt_succ_of_lt (follows h)

theorem Quoted.length_lt {s : List Char} (h : Quoted s cs rest) : rest.length < cs.length := by
  induction h <;> simp only [List.length_cons] <;> omega

mutual

theorem Tree.Begins.length_lt {t : Tree} {cs rest : List Char} :
    t.Begins cs rest → rest.length < cs.length
  | .null | .yes | .no => by simp only [List.length_cons]; omega
  | .number h    => h.length_lt
  | .string h    => Nat.lt_succ_of_lt h.length_lt
  | .empty hb    => Nat.lt_succ_of_lt (Nat.lt_of_succ_le hb.length_le)
  | .bare hb     => Nat.lt_succ_of_lt (Nat.lt_of_succ_le hb.length_le)
  | .array hb h  => Nat.lt_succ_of_lt (h.length_lt.trans_le hb.length_le)
  | .object hb h => Nat.lt_succ_of_lt (h.length_lt.trans_le hb.length_le)

theorem Items.Begin.length_lt {ts : List Tree} {cs rest : List Char} :
    Items.Begin ts cs rest → rest.length < cs.length
  | .last h hb => (Nat.lt_of_succ_le hb.length_le).trans h.length_lt
  | .cons h hb hb' hr =>
    have hr := hr.length_lt.trans_le hb'.length_le
    (hr.trans (Nat.lt_of_succ_le hb.length_le)).trans h.length_lt

theorem Member.Begins.length_lt {m : String × Tree} {cs rest : List Char} :
    Member.Begins m cs rest → rest.length < cs.length
  | .intro hk hb hb' h =>
    have h := h.length_lt.trans_le hb'.length_le
    Nat.lt_succ_of_lt ((h.trans (Nat.lt_of_succ_le hb.length_le)).trans hk.length_lt)

theorem Members.Begin.length_lt {ms : List (String × Tree)} {cs rest : List Char} :
    Members.Begin ms cs rest → rest.length < cs.length
  | .last h hb => (Nat.lt_of_succ_le hb.length_le).trans h.length_lt
  | .cons h hb hb' hr =>
    have hr := hr.length_lt.trans_le hb'.length_le
    (hr.trans (Nat.lt_of_succ_le hb.length_le)).trans h.length_lt

end

end Lengths

section Heads

-- What a text of a tree begins with: no blank, and not what ends an array.
def Opens (cs : List Char) : Prop :=
  ∃ c cs', cs = c :: cs' ∧ isSpace c = false ∧ c ≠ ']'

theorem opens_digit {c : Char} (h : c.isDigit) (cs : List Char) : Opens (c :: cs) := by
  refine ⟨c, cs, rfl, Bool.eq_false_iff.2 fun hs => ?_, ?_⟩
  case refine_1 =>
    simp only [isSpace, Bool.or_eq_true, beq_iff_eq] at hs
    rcases hs with ((rfl | rfl) | rfl) | rfl <;> revert h <;> decide
  case refine_2 =>
    rintro rfl
    revert h; decide

theorem Digits.head {ds : List Nat} {cs rest : List Char} (h : Digits ds cs rest) :
    ∃ d ds, cs = d :: ds ∧ d.isDigit := by
  cases h <;> exact ⟨_, _, rfl, ‹_›⟩

theorem Numeral.Begins.opens {n : Numeral} {cs rest : List Char} (h : n.Begins cs rest) :
    Opens cs := by
  cases h
  case negative => exact ⟨_, _, rfl, by decide⟩
  case positive h =>
    obtain ⟨_, _, hw, _, _⟩ := h
    obtain ⟨d, ds, rfl, hd⟩ := hw.toDigits.head
    exact opens_digit hd ds

theorem Tree.Begins.opens {t : Tree} {cs rest : List Char} (h : t.Begins cs rest) : Opens cs := by
  cases h
  case number h => exact h.opens
  all_goals exact ⟨_, _, rfl, by decide⟩

theorem Items.Begin.opens {ts : List Tree} {cs rest : List Char} (h : Items.Begin ts cs rest) :
    Opens cs := by
  cases h <;> exact Tree.Begins.opens ‹_›

theorem Member.Begins.head {m : String × Tree} {cs rest : List Char} (h : Member.Begins m cs rest) :
    ∃ cs', cs = '"' :: cs' := by
  cases h
  exact ⟨_, rfl⟩

theorem Members.Begin.head {ms : List (String × Tree)} {cs rest : List Char}
    (h : Members.Begin ms cs rest) : ∃ cs', cs = '"' :: cs' := by
  cases h <;> exact Member.Begins.head ‹_›

end Heads
end ChainHost.Json
