import ChainHost.Proofs.Declared.Written
import ChainHost.Proofs.Json.Reordered

namespace ChainHost.Declared

open Json (Tree Orderless quoted_plain digit_plain)

section Parts

theorem FunctionDecl.puts_orderless (room : Nat) (key : String) (draft : Draft) :
    Orderless (Puts room key · draft) := by
  intro t t' h draft'
  simp only [puts_iff, Json.isString_orderless h, Json.isSchema_orderless room h,
    (Json.denotes_orderless room).optionally h, Json.isString_orderless.optionally h]

theorem FunctionDecl.puts_commutes (room : Nat) : Json.Layout.Commutes (Puts room) := by
  intro key key' t t' draft draft₁ draft₂ hk h h'
  cases h <;> cases h' <;> subst key key'
  all_goals first | exact absurd rfl hk | simpa [puts_iff] using ⟨‹_›, ‹_›⟩

theorem RulesDecl.puts_orderless (room : Nat) (key : String) (draft : RulesDecl) :
    Orderless (Puts room key · draft) := by
  intro t t' h draft'
  simp only [puts_iff, Orderless.nested (fun _ => Json.isString_orderless.isList) room h,
    Orderless.nested (fun _ => Json.isString_orderless.isMap) room h,
    Json.isString_orderless.optionally h, Json.isSize_orderless.optionally h]

theorem RulesDecl.puts_commutes (room : Nat) : Json.Layout.Commutes (Puts room) := by
  intro key key' t t' draft draft₁ draft₂ hk h h'
  cases h <;> cases h' <;> subst key key'
  all_goals first | exact absurd rfl hk | simpa [puts_iff] using ⟨‹_›, ‹_›⟩

theorem FunctionDecl.made_orderless (room : Nat) : Orderless (layout.Made (Puts room)) :=
  Json.Layout.made_orderless (by decide) (puts_orderless room) (puts_commutes room)

theorem RulesDecl.made_orderless (room : Nat) : Orderless (layout.Made (Puts room)) :=
  Json.Layout.made_orderless (by decide) (puts_orderless room) (puts_commutes room)

theorem Source.puts_orderless (room : Nat) (key : String) (draft : Source) :
    Orderless (Puts room key · draft) := by
  intro t t' h draft'
  have functions (room : Nat) := (Orderless.nested FunctionDecl.made_orderless room).isList
  have entries (room : Nat) := (Orderless.nested RulesDecl.made_orderless room).isMap
  simp only [puts_iff, Orderless.nested functions room h, Orderless.nested entries room h]

theorem Source.puts_commutes (room : Nat) : Json.Layout.Commutes (Puts room) := by
  intro key key' t t' draft draft₁ draft₂ hk h h'
  cases h <;> cases h' <;> subst key key'
  all_goals first | exact absurd rfl hk | simpa [puts_iff] using ⟨‹_›, ‹_›⟩

theorem Source.made_orderless (room : Nat) : Orderless (layout.Made (Puts room)) :=
  Json.Layout.made_orderless (by decide) (puts_orderless room) (puts_commutes room)

end Parts

section Loading

variable {π : Type} [PatternLanguage π] {code code' : String} {t t' : Tree}

theorem Source.ofText_iff_of_reordered (ht : t.HasText code) (ht' : t'.HasText code')
    (h : t.Reordered t') (s : Source) : ofText code = .ok s ↔ ofText code' = .ok s := by
  rw [ofText_eq_ok_iff ht, ofText_eq_ok_iff ht']
  exact Orderless.nested made_orderless Json.maxOpen h s

-- Texts that differ in layout are both sources or both none. It is the same nucleus that is made of
-- them, so that it has the same interfaces and the same answers; or else the same is wrong with them.
theorem load_ignores_layout (ht : t.HasText code) (ht' : t'.HasText code') (h : t.Reordered t') :
    ((∃ s, Source.ofText code = .ok s) ↔ ∃ s, Source.ofText code' = .ok s) ∧
    ((∃ s, Source.ofText code = .ok s) → load (π := π) code = load code') ∧
    ∀ n : Declared π, load code = .ok n ↔ load code' = .ok n := by
  have hs := Source.ofText_iff_of_reordered ht ht' h
  have heq : (∃ s, Source.ofText code = .ok s) → load (π := π) code = load code' := by
    intro ⟨s, hc⟩
    rw [load_of_ofText hc, load_of_ofText ((hs s).1 hc)]
  refine ⟨exists_congr hs, heq, fun n => ⟨fun hn => ?_, fun hn => ?_⟩⟩
  · obtain ⟨s, hc, _⟩ := load_eq_ok hn
    exact heq ⟨s, hc⟩ ▸ hn
  · obtain ⟨s, hc, _⟩ := load_eq_ok hn
    exact heq ⟨s, (hs s).2 hc⟩ ▸ hn

-- What `[[["f","json",v]]]` says.
def returning (v : Tree) : Tree :=
  .array [.array [.array [.string "f", .string "json", v]]]

theorem begins_returning {v : Tree} {cs : List Char} (h : v.Begins cs [']', ']', ']']) :
    (returning v).Begins
      ('[' :: '[' :: '[' :: '"' :: 'f' :: '"' :: ',' :: '"' :: 'j' :: 's' :: 'o' :: 'n' :: '"' ::
        ',' :: cs) [] := by
  have name {rest : List Char} : Tree.Begins (.string "f") ('"' :: (['f'] ++ '"' :: rest)) rest :=
    .string (quoted_plain (by simp))
  have schema {rest : List Char} : Tree.Begins (.string "json")
      ('"' :: (['j', 's', 'o', 'n'] ++ '"' :: rest)) rest :=
    .string (quoted_plain (by simp))
  exact .array .none (.last (.array .none (.last (.array .none
    (.cons name .none .none (.cons schema .none .none (.last h .none)))) .none)) .none)

theorem load_ignores_order_in_constant : ∃ n : Declared Pattern,
    load "[[[\"f\",\"json\",\x7b\"a\":1,\"b\":null\x7d]]]" = .ok n ∧
      load " [[[\"f\",\"json\",\x7b\"b\":null,\"a\":1\x7d]]]" = .ok n := by
  have one {rest : List Char} : Tree.Begins (.number ⟨false, [1], none, none⟩) ('1' :: rest) rest :=
    digit_plain '1' rfl rfl (by decide)
  have ht : (returning (.object [("a", .number ⟨false, [1], none, none⟩), ("b", .null)])).HasText
      "[[[\"f\",\"json\",\x7b\"a\":1,\"b\":null\x7d]]]" := by
    refine ⟨_, _, .none, ?_, .none⟩
    simp only [String.toList]
    exact begins_returning (.object .none
      (.cons (.intro (quoted_plain (s := ['a']) (by simp)) .none .none one) .none .none
        (.last (.intro (quoted_plain (s := ['b']) (by simp)) .none .none .null) .none)))
  have ht' : (returning (.object [("b", .null), ("a", .number ⟨false, [1], none, none⟩)])).HasText
      " [[[\"f\",\"json\",\x7b\"b\":null,\"a\":1\x7d]]]" := by
    refine ⟨_, _, .cons (by decide) .none, ?_, .none⟩
    exact begins_returning (.object .none
      (.cons (.intro (quoted_plain (s := ['b']) (by simp)) .none .none .null) .none .none
        (.last (.intro (quoted_plain (s := ['a']) (by simp)) .none .none one) .none)))
  have hs : Source.ofText "[[[\"f\",\"json\",\x7b\"a\":1,\"b\":null\x7d]]]" =
      .ok ⟨[⟨"f", .json, some (.object [("a", .number (.integer 1)), ("b", .null)]), none⟩], []⟩ := by
    cbv
  obtain ⟨n, hn⟩ := exists_load (π := Pattern) hs (by decide)
  have h : (returning (.object [("a", .number ⟨false, [1], none, none⟩), ("b", .null)])).Reordered
      (returning (.object [("b", .null), ("a", .number ⟨false, [1], none, none⟩)])) := by
    refine .array (.cons (.array (.cons (.array (.cons (.string _) (.cons (.string _)
      (.cons (.object (by simp) ?_ (.swap _ _ _)) .nil)))) .nil)) .nil)
    exact .cons (.intro (.number rfl)) (.cons (.intro .null) .nil)
  exact ⟨n, hn, ((load_ignores_layout ht ht' h).2.2 n).1 hn⟩

end Loading
end ChainHost.Declared
