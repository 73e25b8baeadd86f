import ChainHost.Proofs.Declared.Calls
import ChainHost.Proofs.Declared.WellWritten

namespace ChainHost

namespace Json

theorem Tree.NamesSchema.eq {t : Tree} {s s' : Schema} (h : t.NamesSchema s)
    (h' : t.NamesSchema s') : s = s' := by
  rcases h with rfl | rfl
  case inl =>
    rcases h' with h' | h'
    case inl => exact Schema.name_injective (Tree.string.inj h')
    case inr => cases h'
  case inr =>
    rcases h' with h' | h'
    case inl => cases h'
    case inr =>
      simp only [Tree.object.injEq, List.cons.injEq, Prod.mk.injEq, and_true] at h'
      exact Schema.name_injective h'

theorem Tree.Denotes.eq_string {room : Nat} {t : Tree} {s : String}
    (h : t.Denotes room (.string s)) : t = .string s := by
  cases t
  case string => simpa [Tree.Denotes, eq_comm] using h
  all_goals cases room <;> simp [Tree.Denotes] at h

theorem Tree.Denotes.of_string {room : Nat} {s : String} {v : Value}
    (h : (Tree.string s).Denotes room v) : v = .string s := by
  simpa [Tree.Denotes] using h

theorem Value.string?_eq_none_iff {v : Value} : v.string? = none ↔ ∀ s, v ≠ .string s := by
  cases v <;> simp [Value.string?]

end Json

namespace Declared

open Json (Tree quoted_plain digit_plain)

-- A function that stands among those of a source.
def Source.Lists (t f : Tree) : Prop :=
  ∃ fs, ("functions", .array fs) ∈ t.fields layout.names ∧ f ∈ fs

-- A function of bare text with a constant that is no text, and without an error.
structure FunctionDecl.Mistyped (f : Tree) : Prop where
  schema  : ∃ value, ("schema", value) ∈ f.fields layout.names ∧ value.NamesSchema .string
  returns : ∃ value, ("returns", value) ∈ f.fields layout.names ∧ value ≠ .null ∧
    ∀ s, value ≠ .string s
  error   : ∀ value, ("error", value) ∈ f.fields layout.names → value = .null

section Reading

variable {f : Tree} {d : FunctionDecl}

-- What is read from a function keeps whether its constant fits.
theorem FunctionDecl.Written.mistyped_iff (h : d.Written f) :
    FunctionDecl.Mistyped f ↔ d.hasBadConstant = true := by
  have hn := h.shape.nodup (by decide)
  obtain ⟨room, schema, hschema, hs⟩ := h.schema
  obtain ⟨room', hreturns⟩ := h.returns
  have hbad : d.hasBadConstant = true ↔ d.schema = .string ∧ d.error = none ∧
      ∃ v, d.returns = some v ∧ ∀ s, v ≠ .string s := by
    simp [FunctionDecl.hasBadConstant, Option.any_eq_true, Json.Value.string?_eq_none_iff, and_assoc]
  rw [hbad]
  constructor
  case mp =>
    rintro ⟨⟨schema', hschema', hs'⟩, ⟨value, hvalue, hnull, hstring⟩, herror⟩
    refine ⟨?schema, ?error, ?returns⟩
    case schema =>
      cases Json.eq_of_mem_of_nodup hn hschema hschema'
      exact hs.names.eq hs'
    case error =>
      cases h.error
      case absent he    => exact he
      case member hm ho => exact ho.eq_null_iff.1 (herror _ hm)
    case returns =>
      have ho := hreturns.of_mem hn hvalue
      obtain ⟨v, hv, he⟩ := ho.eq_null_or.resolve_left hnull
      exact ⟨v, he, fun s hs => hstring s (hs ▸ hv).eq_string⟩
  case mpr =>
    rintro ⟨hschema', herror, v, hreturned, hstring⟩
    refine ⟨⟨schema, hschema, hschema' ▸ hs.names⟩, ?returns, fun value hvalue => ?error⟩
    case error => exact (h.error.of_mem hn hvalue).eq_null_iff.2 herror
    case returns =>
      cases hreturns
      case absent he => cases hreturned.symm.trans he
      case member value hm ho =>
        have hnull : value ≠ .null := fun hnull => by
          cases hreturned.symm.trans (ho.eq_null_iff.1 hnull)
        obtain ⟨v', hv, he⟩ := ho.eq_null_or.resolve_left hnull
        cases hreturned.symm.trans he
        refine ⟨value, hm, hnull, ?_⟩
        rintro s rfl
        exact hstring s hv.of_string

theorem Source.Written.exists_decl {t : Tree} {s : Source} (h : s.Written t)
    (hf : Source.Lists t f) : ∃ d ∈ s.functions, d.Written f := by
  obtain ⟨fs, hfs, hf⟩ := hf
  cases h.functions.of_mem (h.shape.nodup (by decide)) hfs
  case intro h => exact exists_of_mem_of_forall₂ h hf

theorem Source.Written.exists_function {t : Tree} {s : Source} (h : s.Written t)
    (hd : d ∈ s.functions) : ∃ f, Source.Lists t f ∧ d.Written f := by
  cases h.functions
  case absent he => cases he ▸ hd
  case member hm hl =>
    generalize s.functions = ds at hl hd
    cases hl
    case intro h =>
      obtain ⟨f, hf, hw⟩ := exists_of_mem_of_forall₂ h.flip hd
      exact ⟨f, ⟨_, hm, hf⟩, hw⟩

end Reading

section Refusing

variable {π : Type} [PatternLanguage π] {code : String}

theorem exists_bad_of_mem_functionDefects {earlier : List String} {ds : List FunctionDecl}
    {name : String} (h : .load (.constant name) ∈ functionDefects earlier ds) :
    ∃ d ∈ ds, d.name = name ∧ d.hasBadConstant = true := by
  induction ds generalizing earlier
  case nil => cases h
  case cons d ds hi =>
    rcases List.mem_append.1 h with h | h
    case inl =>
      simp only [FunctionDecl.defects, List.mem_append, List.mem_ite_nil_right,
        List.mem_singleton] at h
      rcases h with ⟨hb, ⟨⟩⟩ | ⟨_, ⟨⟩⟩
      exact ⟨d, List.mem_cons_self, rfl, hb⟩
    case inr =>
      obtain ⟨d', hd, hb⟩ := hi h
      exact ⟨d', List.mem_cons_of_mem d hd, hb⟩

theorem RulesDecl.constant_not_mem_defects {entry name : String} {d : RulesDecl} :
    .load (.constant name) ∉ d.defects π entry := by
  simp only [defects, List.mem_append, List.mem_flatMap, List.mem_ite_nil_right,
    List.mem_singleton]
  rintro (⟨text, _, h⟩ | ⟨_, ⟨⟩⟩)
  unfold patternDefects at h
  split at h
  case h_1 => cases h
  case h_2 => cases List.mem_singleton.1 h

theorem Source.exists_bad_of_mem_defects {s : Source} {name : String}
    (h : .load (.constant name) ∈ s.defects π) :
    ∃ d ∈ s.functions, d.name = name ∧ d.hasBadConstant = true := by
  rcases List.mem_append.1 h with h | h
  case inl => exact exists_bad_of_mem_functionDefects h
  case inr =>
    obtain ⟨entry, _, h⟩ := List.mem_flatMap.1 h
    exact absurd h RulesDecl.constant_not_mem_defects

theorem Loaded.hasBadConstant_eq_false {s : Source} {n : Declared π} (h : Loaded s n)
    {d : FunctionDecl} (hd : d ∈ s.functions) : d.hasBadConstant = false := by
  obtain ⟨behavior, hb, _⟩ := h.declared d hd
  simpa using (Behavior.ofDecl_reports d).eq_nil_of_ok hb

-- A constant that does not fit is refused, and no other one. A text that is not one of a tree has no
-- functions, and is refused as well.
theorem load_refuses_mistyped_constants (code : String) :
    ((∃ t : Tree, t.HasText code ∧ ∃ f, Source.Lists t f ∧ FunctionDecl.Mistyped f) →
      ∃ e, load (π := π) code = .error e) ∧
    ((∀ t : Tree, ¬t.HasText code) → ∃ e, load (π := π) code = .error e) ∧
    ∀ t : Tree, t.HasText code → ∀ name, load (π := π) code = .error (.load (.constant name)) →
      ∃ f, Source.Lists t f ∧ FunctionDecl.Mistyped f ∧
        ("name", .string name) ∈ f.fields FunctionDecl.layout.names := by
  refine ⟨?mistyped, ?treeless, ?other⟩
  case mistyped =>
    rintro ⟨t, ht, f, hf, hm⟩
    cases hn : load (π := π) code
    case error e => exact ⟨e, rfl⟩
    case ok n =>
      obtain ⟨s, hs, l⟩ := load_eq_ok hn
      obtain ⟨d, hd, hw⟩ := (Source.written_of_ofText ht hs).exists_decl hf
      have hbad := hw.mistyped_iff.1 hm
      rw [l.hasBadConstant_eq_false hd] at hbad
      cases hbad
  case treeless =>
    intro ht
    cases hn : load (π := π) code
    case error e => exact ⟨e, rfl⟩
    case ok n =>
      obtain ⟨s, hs, _⟩ := load_eq_ok hn
      obtain ⟨t, ht'⟩ := Source.exists_hasText hs
      exact absurd ht' (ht t)
  case other =>
    intro t ht name he
    cases hs : Source.ofText code
    case error fault =>
      simp only [load, hs] at he
      cases he
    case ok s =>
      rw [load_of_ofText hs] at he
      have hm := List.mem_of_head? ((ofSource_reports s).error_iff.1 he)
      obtain ⟨d, hd, rfl, hbad⟩ := Source.exists_bad_of_mem_defects hm
      obtain ⟨f, hf, hw⟩ := (Source.written_of_ofText ht hs).exists_function hd
      exact ⟨f, hf, hw.mistyped_iff.2 hbad, hw.name⟩

-- What `{"functions":[["f","string",1]]}` says.
def numberForText : Tree :=
  .object [("functions", .array [.array [
    .string "f", .string "string", .number ⟨false, [1], none, none⟩]])]

theorem hasText_numberForText :
    numberForText.HasText "\x7b\"functions\":[[\"f\",\"string\",1]]\x7d" := by
  refine ⟨_, _, .none, ?_, .none⟩
  simp only [String.toList]
  have name {rest : List Char} : Tree.Begins (.string "f") ('"' :: (['f'] ++ '"' :: rest)) rest :=
    .string (quoted_plain (by simp))
  have schema {rest : List Char} : Tree.Begins (.string "string")
      ('"' :: (['s', 't', 'r', 'i', 'n', 'g'] ++ '"' :: rest)) rest :=
    .string (quoted_plain (by simp))
  have value {rest : List Char} : Tree.Begins (.number ⟨false, [1], none, none⟩) ('1' :: rest) rest :=
    digit_plain '1' rfl rfl (by decide)
  have function {rest : List Char} : Tree.Begins _ _ rest := .array .none
    (.cons name .none .none (.cons schema .none .none (.last value .none)))
  exact .object .none (.last (.intro
    (quoted_plain (s := ['f', 'u', 'n', 'c', 't', 'i', 'o', 'n', 's']) (by simp)) .none .none
    (.array .none (.last function .none))) .none)

-- A number for a text is refused; but not where its function also declares an error.
theorem load_refuses_number_for_text :
    (∃ e, load (π := Pattern) "\x7b\"functions\":[[\"f\",\"string\",1]]\x7d" = .error e) ∧
      ∃ n : Declared Pattern,
        load "\x7b\"functions\":[[\"f\",\"string\",1,\"no\"]]\x7d" = .ok n := by
  constructor
  case left =>
    apply (load_refuses_mistyped_constants _).1
    refine ⟨numberForText, hasText_numberForText, _, ⟨_, .head _, .head _⟩, ?_⟩
    exact {
      schema  := ⟨_, .tail _ (.head _), .inl rfl⟩
      returns := ⟨_, .tail _ (.tail _ (.head _)), by simp⟩
      error   := by simp [Tree.fields, FunctionDecl.layout, Json.Layout.names] }
  case right =>
    have hs : Source.ofText "\x7b\"functions\":[[\"f\",\"string\",1,\"no\"]]\x7d" =
        .ok ⟨[⟨"f", .string, some (.number (.integer 1)), some "no"⟩], []⟩ := by cbv
    exact exists_load hs (by decide)

end Refusing
end Declared
end ChainHost
