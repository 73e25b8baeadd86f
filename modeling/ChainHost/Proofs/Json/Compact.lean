import ChainHost.Json.Printer
import ChainHost.Proofs.Json.Values

namespace ChainHost.Json

mutual

-- What is left of a text without its strings.
def unquoted : List Char → List Char
  | []      => []
  | c :: cs => if c = '"' then behindQuote cs else c :: unquoted cs

-- The same of what follows an opening quote. An escaped quote closes no string.
def behindQuote : List Char → List Char
  | []              => []
  | '\\' :: _ :: cs => behindQuote cs
  | c :: cs         => if c = '"' then unquoted cs else behindQuote cs

end

example : unquoted "\x7b\"a \\\" b\": [1, true]\x7d".toList = "\x7b: [1, true]\x7d".toList := by decide

-- A text of one line, with blanks in its strings alone.
structure OneLine (text : String) : Prop where
  printable : ∀ c ∈ text.toList, 0x20 ≤ c.toNat
  compact   : ∀ c ∈ unquoted text.toList, isSpace c = false

-- A character that needs no string around it.
def IsBare (c : Char) : Prop :=
  0x20 < c.toNat ∧ c ≠ '"'

instance : DecidablePred IsBare :=
  fun c => inferInstanceAs (Decidable (0x20 < c.toNat ∧ c ≠ '"'))

-- A part of a text of one line, after which no string is open.
structure OneLinePart (cs : List Char) : Prop where
  printable : ∀ c ∈ cs, 0x20 ≤ c.toNat
  compact   : ∀ rest, ∃ bare, (∀ c ∈ bare, IsBare c) ∧
    unquoted (cs ++ rest) = bare ++ unquoted rest

variable {cs ds : List Char} {c : Char}

theorem IsBare.isSpace_eq_false (h : IsBare c) : isSpace c = false := by
  rw [Bool.eq_false_iff]
  intro hs
  simp only [isSpace, Bool.or_eq_true, beq_iff_eq] at hs
  rcases hs with ((rfl | rfl) | rfl) | rfl
  all_goals exact absurd h (by decide)

namespace OneLinePart

theorem oneLine (h : OneLinePart cs) : OneLine (String.ofList cs) := by
  obtain ⟨bare, hb, hu⟩ := h.compact []
  rw [List.append_nil, unquoted, List.append_nil] at hu
  constructor
  case printable => simpa using h.printable
  case compact =>
    rw [String.toList_ofList, hu]
    exact fun c hc => (hb c hc).isSpace_eq_false

theorem append (h : OneLinePart cs) (h' : OneLinePart ds) : OneLinePart (cs ++ ds) where
  printable    := List.forall_mem_append.2 ⟨h.printable, h'.printable⟩
  compact rest := by
    obtain ⟨bare, hb, hu⟩ := h.compact (ds ++ rest)
    obtain ⟨bare', hb', hu'⟩ := h'.compact rest
    refine ⟨bare ++ bare', List.forall_mem_append.2 ⟨hb, hb'⟩, ?_⟩
    rw [List.append_assoc, hu, hu', List.append_assoc]

theorem of_forall_mem (h : ∀ c ∈ cs, IsBare c) : OneLinePart cs where
  printable c hc := (h c hc).1.le
  compact rest := by
    refine ⟨cs, h, ?_⟩
    induction cs
    case nil => rfl
    case cons c cs hi =>
      obtain ⟨hc, hcs⟩ := List.forall_mem_cons.1 h
      rw [List.cons_append, unquoted, if_neg hc.2, hi hcs, List.cons_append]

theorem of_all (h : (cs.all fun c => IsBare c) = true) : OneLinePart cs :=
  of_forall_mem (by simpa using h)

theorem cons (hc : IsBare c) (h : OneLinePart cs) : OneLinePart (c :: cs) :=
  (of_forall_mem (List.forall_mem_singleton.2 hc)).append h

end OneLinePart

section Numbers

variable {digits : List Char} {exponent : Int}

theorem isBare_of_isDigit (h : c.isDigit) : IsBare c := by
  have hd : '0'.toNat ≤ c.toNat := by
    simp only [Char.isDigit, Bool.and_eq_true, decide_eq_true_eq] at h
    exact h.1
  refine ⟨Nat.lt_of_lt_of_le (by decide) hd, ?_⟩
  rintro rfl
  exact absurd hd (by decide)

theorem isBare_of_mem_digitsOf {n : Nat} (h : c ∈ digitsOf n) : IsBare c :=
  isBare_of_isDigit (isDigit_of_mem_digitsOf c h)

theorem isBare_of_mem_writePositional (hd : ∀ c ∈ digits, IsBare c)
    (h : c ∈ writePositional digits exponent) : IsBare c := by
  have hzero : IsBare '0' := by decide
  have hpoint : IsBare '.' := by decide
  have hzeros (n : Nat) (h : c ∈ List.replicate n '0') : IsBare c :=
    List.eq_of_mem_replicate h ▸ hzero
  unfold writePositional at h
  dsimp only at h
  split at h
  case isTrue =>
    rcases List.mem_cons.1 h with rfl | h
    case inl => exact hzero
    rcases List.mem_cons.1 h with rfl | h
    case inl => exact hpoint
    exact (List.mem_append.1 h).elim (hzeros _) (hd c)
  case isFalse =>
    rcases List.mem_append.1 h with h | h
    case inl => exact (List.mem_append.1 h).elim (fun h => hd c (List.mem_of_mem_take h)) (hzeros _)
    rcases List.mem_cons.1 h with rfl | h
    case inl => exact hpoint
    split at h
    case isTrue  => exact List.mem_singleton.1 h ▸ hzero
    case isFalse => exact hd c (List.mem_of_mem_drop h)

theorem isBare_of_mem_writeScientific (hd : ∀ c ∈ digits, IsBare c)
    (h : c ∈ writeScientific digits exponent) : IsBare c := by
  have hsign : IsBare (if exponent < 0 then '-' else '+') := by split <;> decide
  have hpoint : IsBare '.' := by decide
  unfold writeScientific at h
  dsimp only at h
  rcases List.mem_append.1 h with h | h
  case inl =>
    split at h
    case h_1 =>
      simp only [List.forall_mem_cons] at hd
      simp only [List.mem_cons] at h
      rcases h with rfl | rfl | rfl | h
      case inr.inl => exact hpoint
      all_goals simp_all
    case h_2 => exact hd c h
  case inr =>
    rcases List.mem_cons.1 h with rfl | h
    case inl => decide
    rcases List.mem_cons.1 h with rfl | h
    case inl => exact hsign
    exact isBare_of_mem_digitsOf h

theorem isBare_of_mem_writeDouble {x : Double} (h : c ∈ writeDouble x) : IsBare c := by
  have hsize {size : List Char} (h : c ∈ if x.negative then '-' :: size else size)
      (hs : c ∈ size → IsBare c) : IsBare c := by
    split at h
    case isTrue =>
      rcases List.mem_cons.1 h with rfl | h
      case inl => decide
      case inr => exact hs h
    case isFalse => exact hs h
  refine hsize h fun h => ?_
  split at h
  case isTrue  => exact isBare_of_mem_writePositional (fun _ => isBare_of_mem_digitsOf) h
  case isFalse => exact isBare_of_mem_writeScientific (fun _ => isBare_of_mem_digitsOf) h

theorem isBare_of_mem_write {n : Number} (h : c ∈ n.write) : IsBare c := by
  cases n
  case double x => exact isBare_of_mem_writeDouble h
  case integer i =>
    cases i
    case ofNat n => exact isBare_of_mem_digitsOf h
    case negSucc n =>
      rcases List.mem_cons.1 h with rfl | h
      case inl => decide
      case inr => exact isBare_of_mem_digitsOf h

end Numbers

section Strings

theorem behindQuote_cons (hq : c ≠ '"') (hb : c ≠ '\\') (cs : List Char) :
    behindQuote (c :: cs) = behindQuote cs := by
  rw [behindQuote, if_neg hq]
  rintro _ _ rfl
  exact absurd rfl hb

theorem hexDigit_spec : ∀ n < 16,
    hexDigit n ≠ '"' ∧ hexDigit n ≠ '\\' ∧ 0x20 ≤ (hexDigit n).toNat := by
  decide

-- However a character stands in a string, the string goes on behind it.
theorem behindQuote_escape (c : Char) (cs : List Char) :
    behindQuote (escape c ++ cs) = behindQuote cs := by
  unfold escape
  split
  case h_8 hq hb _ _ _ _ _ =>
    split
    case isTrue hc =>
      obtain ⟨hq₁, hb₁, -⟩ := hexDigit_spec (c.toNat / 16) (by omega)
      obtain ⟨hq₂, hb₂, -⟩ := hexDigit_spec (c.toNat % 16) (by omega)
      simp only [List.cons_append, List.nil_append, behindQuote]
      rw [behindQuote_cons (by decide) (by decide), behindQuote_cons (by decide) (by decide),
        behindQuote_cons hq₁ hb₁, behindQuote_cons hq₂ hb₂]
    case isFalse => exact behindQuote_cons hq hb cs
  all_goals rfl

theorem toNat_of_mem_escape {d : Char} (h : d ∈ escape c) : 0x20 ≤ d.toNat := by
  unfold escape at h
  split at h
  case h_8 =>
    split at h
    case isTrue hc =>
      have h₁ := (hexDigit_spec (c.toNat / 16) (by omega)).2.2
      have h₂ := (hexDigit_spec (c.toNat % 16) (by omega)).2.2
      simp only [List.mem_cons, List.not_mem_nil, or_false] at h
      rcases h with rfl | rfl | rfl | rfl | rfl | rfl
      case inr.inr.inr.inr.inl => exact h₁
      case inr.inr.inr.inr.inr => exact h₂
      all_goals decide
    case isFalse hc =>
      obtain rfl := List.mem_singleton.1 h
      exact Nat.le_of_not_lt hc
  all_goals
    simp only [List.mem_cons, List.not_mem_nil, or_false] at h
    rcases h with rfl | rfl
    all_goals decide

theorem behindQuote_flatMap_escape (s rest : List Char) :
    behindQuote (s.flatMap escape ++ '"' :: rest) = unquoted rest := by
  induction s
  case nil =>
    rw [List.flatMap_nil, List.nil_append, behindQuote, if_pos rfl]
    rintro _ _ ⟨⟩
  case cons c s hi => rw [List.flatMap_cons, List.append_assoc, behindQuote_escape, hi]

theorem oneLinePart_writeString (s : String) : OneLinePart (writeString s) := by
  constructor
  case printable =>
    rw [writeString, List.forall_mem_cons, List.forall_mem_append]
    refine ⟨by decide, fun c hc => ?_, List.forall_mem_singleton.2 (by decide)⟩
    obtain ⟨d, -, hd⟩ := List.mem_flatMap.1 hc
    exact toNat_of_mem_escape hd
  case compact =>
    refine fun rest => ⟨[], List.forall_mem_nil _, ?_⟩
    rw [writeString, List.cons_append, unquoted, if_pos rfl, List.append_assoc,
      List.singleton_append, behindQuote_flatMap_escape]
    rfl

end Strings

section Values

namespace Value

theorem oneLinePart_writeItems {items : List Value} (h : ∀ v ∈ items, OneLinePart v.write) :
    OneLinePart (writeItems items) := by
  induction items
  case nil => exact .of_all (by decide)
  case cons item items hi =>
    obtain ⟨hitem, hitems⟩ := List.forall_mem_cons.1 h
    rw [writeItems]
    exact .cons (by decide) (hitem.append (hi hitems))

theorem oneLinePart_member {key : String} {value : Value} (h : OneLinePart value.write)
    (hcs : OneLinePart cs) : OneLinePart (writeString key ++ ':' :: (value.write ++ cs)) :=
  (oneLinePart_writeString key).append (.cons (by decide) (h.append hcs))

theorem oneLinePart_writeMembers {members : List (String × Value)}
    (h : ∀ m ∈ members, OneLinePart m.2.write) : OneLinePart (writeMembers members) := by
  induction members
  case nil => exact .of_all (by decide)
  case cons m members hi =>
    obtain ⟨hm, hmembers⟩ := List.forall_mem_cons.1 h
    rw [writeMembers]
    exact .cons (by decide) (oneLinePart_member hm (hi hmembers))

theorem oneLinePart_write (v : Value) : OneLinePart v.write := by
  induction v using Value.induction
  case null     => exact .of_all (by decide)
  case bool b   => cases b <;> exact .of_all (by decide)
  case number n => exact .of_forall_mem fun _ => isBare_of_mem_write
  case string s => exact oneLinePart_writeString s
  case array items hi =>
    cases items
    case nil => exact .of_all (by decide)
    case cons item items =>
      obtain ⟨hitem, hitems⟩ := List.forall_mem_cons.1 hi
      rw [write]
      exact .cons (by decide) (hitem.append (oneLinePart_writeItems hitems))
  case object members hm =>
    cases members
    case nil => exact .of_all (by decide)
    case cons m members =>
      obtain ⟨hm, hmembers⟩ := List.forall_mem_cons.1 hm
      rw [write]
      exact .cons (by decide) (oneLinePart_member hm (oneLinePart_writeMembers hmembers))

-- The text of a value is one line, whatever there is in its strings and keys.
theorem oneLine_text (v : Value) : OneLine v.text :=
  v.oneLinePart_write.oneLine

end Value
end Values
end ChainHost.Json
