import ChainHost.Proofs.Declared.Load
import ChainHost.Proofs.Json.Typed

namespace ChainHost

namespace Json.Value

-- The items of an array.
def items : Value → List Value
  | array vs => vs
  | _        => []

-- The keys of an object.
def keys : Value → List String
  | object ms => ms.map Prod.fst
  | _         => []

-- A value unless it is null.
def nonNull? : Value → Option Value
  | null => none
  | v    => some v

theorem nonNull?_of_ne {v : Value} (h : v ≠ null) : v.nonNull? = some v := by
  cases v
  case null => exact absurd rfl h
  all_goals rfl

theorem nonNull?_eq_map {α : Type} {v : Value} {a : Option α} {write : α → Value}
    (h : (v = null ∧ a = none) ∨ (v ≠ null ∧ ∃ b, a = some b ∧ v = write b)) :
    v.nonNull? = a.map write := by
  rcases h with ⟨rfl, rfl⟩ | ⟨hv, b, rfl, rfl⟩
  case inl => rfl
  case inr => exact nonNull?_of_ne hv

end Json.Value

namespace Declared

open Json (Value findMember?)

-- The value of a field of a document.
def field? (key : String) (document : Value) : Option Value :=
  (Source.layout.members? document).bind (findMember? key)

-- The values of the functions of a document.
def functionValues (document : Value) : List Value :=
  (field? "functions" document).elim [] Value.items

-- The entry types for which a document has rules.
def entryTypes (document : Value) : List String :=
  (field? "entries" document).elim [] Value.keys

namespace FunctionDecl

-- A declaration as it stands in the members of a value.
structure StandsIn (ms : List (String × Value)) (d : FunctionDecl) : Prop where
  name    : findMember? "name" ms = some (.string d.name)
  schema  : ∃ v, findMember? "schema" ms = some v ∧ v.IsSchema d.schema
  returns : (findMember? "returns" ms).bind Value.nonNull? = d.returns
  error   : (findMember? "error" ms).bind Value.nonNull? = d.error.map .string

section Fields

variable {f : Json.Field Draft} {room : Nat} {node : Json.Node} {draft draft' : Draft}

-- What a field reads, and where it puts it.
theorem read_eq_ok (hf : f ∈ layout.fields) (h : f.read room node draft = .ok draft') :
    ∃ v, node.value room = .ok v ∧
      ((f.name = "name" ∧ ∃ s, v = .string s ∧ draft' = { draft with name := some s }) ∨
      (f.name = "schema" ∧ ∃ s, v.IsSchema s ∧ draft' = { draft with schema := some s }) ∨
      (f.name = "returns" ∧ draft' = { draft with returns := v.nonNull? }) ∨
      (f.name = "error" ∧ ∃ e, v.nonNull? = e.map .string ∧ draft' = { draft with error := e })) := by
  simp only [layout, List.mem_cons, List.not_mem_nil, or_false] at hf
  rcases hf with rfl | rfl | rfl | rfl
  all_goals obtain ⟨a, ha, ⟨⟩⟩ := bind_eq_ok_iff.1 h
  case inl =>
    obtain ⟨v, hv, hr⟩ := Json.string_reads ha
    exact ⟨v, hv, .inl ⟨rfl, a, hr, rfl⟩⟩
  case inr.inl =>
    obtain ⟨v, hv, hr⟩ := Json.schema_reads ha
    exact ⟨v, hv, .inr (.inl ⟨rfl, a, hr, rfl⟩)⟩
  case inr.inr.inl =>
    obtain ⟨v, hv, hr⟩ := Json.anyValue_reads.optional ha
    have ha : v.nonNull? = a.map id := Value.nonNull?_eq_map hr
    rw [Option.map_id_fun, id_eq] at ha
    exact ⟨v, hv, .inr (.inr (.inl ⟨rfl, ha ▸ rfl⟩))⟩
  case inr.inr.inr =>
    obtain ⟨v, hv, hr⟩ := Json.string_reads.optional ha
    exact ⟨v, hv, .inr (.inr (.inr ⟨rfl, a, Value.nonNull?_eq_map hr, rfl⟩))⟩

theorem readsValues : layout.ReadsValues :=
  fun _ hf _ _ _ _ h => (read_eq_ok hf h).imp fun _ hv => hv.1

theorem sets_name : layout.Sets "name" Draft.name fun v a => ∃ s, v = .string s ∧ a = some s where
  reads _ hf hn _ _ _ _ h := by grind [read_eq_ok hf h]
  keeps _ hf hn _ _ _ _ h := by grind [read_eq_ok hf h]

theorem sets_schema : layout.Sets "schema" Draft.schema fun v a => ∃ s, v.IsSchema s ∧ a = some s where
  reads _ hf hn _ _ _ _ h := by grind [read_eq_ok hf h]
  keeps _ hf hn _ _ _ _ h := by grind [read_eq_ok hf h]

theorem sets_returns : layout.Sets "returns" Draft.returns fun v a => v.nonNull? = a where
  reads _ hf hn _ _ _ _ h := by grind [read_eq_ok hf h]
  keeps _ hf hn _ _ _ _ h := by grind [read_eq_ok hf h]

theorem sets_error : layout.Sets "error" Draft.error fun v a => v.nonNull? = a.map .string where
  reads _ hf hn _ _ _ _ h := by grind [read_eq_ok hf h]
  keeps _ hf hn _ _ _ _ h := by grind [read_eq_ok hf h]

end Fields

-- A declaration that was read from a value.
def ReadFrom (v : Value) (d : FunctionDecl) : Prop :=
  ∃ ms, layout.members? v = some ms ∧ d.StandsIn ms

theorem layout_reads : layout.decode.Reads ReadFrom := by
  intro room node d h
  obtain ⟨v, hv, ms, draft, hms, hfinish, hparts⟩ :=
    Json.Layout.reads_record readsValues rfl (by decide) h
  obtain ⟨name, hname, hfinish⟩ := bind_eq_ok_iff.1 hfinish
  obtain ⟨schema, hschema, ⟨⟩⟩ := bind_eq_ok_iff.1 hfinish
  have hname : draft.name = some name := Json.required_eq_ok hname
  have hschema : draft.schema = some schema := Json.required_eq_ok hschema
  refine ⟨v, hv, ms, hms, ?name, ?schema, ?returns, ?error⟩
  case name =>
    obtain ⟨w, hw, s, rfl, hs⟩ := (hparts sets_name).exists_of_ne (by rw [hname]; nofun)
    cases hname.symm.trans hs
    exact hw
  case schema =>
    obtain ⟨w, hw, s, hr, hs⟩ := (hparts sets_schema).exists_of_ne (by rw [hschema]; nofun)
    cases hschema.symm.trans hs
    exact ⟨w, hw, hr⟩
  case returns => exact (hparts sets_returns).bind_eq rfl
  case error   => exact (hparts sets_error).bind_eq rfl

end FunctionDecl

theorem RulesDecl.readsValues : layout.ReadsValues := by
  intro f hf room node draft draft' h
  simp only [layout, List.mem_cons, List.not_mem_nil, or_false] at hf
  rcases hf with rfl | rfl | rfl | rfl
  all_goals obtain ⟨a, ha, -⟩ := bind_eq_ok_iff.1 h
  case inl         => exact (Json.string_reads.listOf ha).imp fun _ hv => hv.1
  case inr.inl     => exact (Json.string_reads.mapOf ha).imp fun _ hv => hv.1
  case inr.inr.inl => exact (Json.string_reads.optional ha).imp fun _ hv => hv.1
  case inr.inr.inr => exact (Json.size_reads.optional ha).imp fun _ hv => hv.1

theorem RulesDecl.layout_reads : layout.decode.Reads layout.Read :=
  Json.Layout.reads_record readsValues rfl (by decide)

-- What is read item by item has something for each item.
theorem exists_of_mem_of_forall₂ {α β : Type} {R : α → β → Prop} {as : List α} {bs : List β}
    (h : List.Forall₂ R as bs) {a : α} (ha : a ∈ as) : ∃ b ∈ bs, R a b := by
  induction h
  case nil => cases ha
  case cons a' b as bs hr _ hi =>
    rcases List.mem_cons.1 ha with rfl | ha
    case inl => exact ⟨b, List.mem_cons_self, hr⟩
    case inr =>
      obtain ⟨b, hb, hr⟩ := hi ha
      exact ⟨b, List.mem_cons_of_mem _ hb, hr⟩

namespace Source

-- A source as it stands in a document.
structure StandsIn (document : Value) (s : Source) : Prop where
  functions : List.Forall₂ FunctionDecl.ReadFrom (functionValues document) s.functions
  entries   : s.entries.map Prod.fst = entryTypes document

theorem StandsIn.exists_function {document f : Value} {s : Source} (h : s.StandsIn document)
    (hf : f ∈ functionValues document) : ∃ d ∈ s.functions, d.ReadFrom f :=
  exists_of_mem_of_forall₂ h.functions hf

section Fields

variable {f : Json.Field Source} {room : Nat} {node : Json.Node} {draft draft' : Source}

theorem read_eq_ok (hf : f ∈ layout.fields) (h : f.read room node draft = .ok draft') :
    ∃ v, node.value room = .ok v ∧
      ((f.name = "functions" ∧ ∃ ds, List.Forall₂ FunctionDecl.ReadFrom v.items ds ∧
        draft' = { draft with functions := ds }) ∨
      (f.name = "entries" ∧ ∃ es, es.map Prod.fst = v.keys ∧
        draft' = { draft with entries := es })) := by
  simp only [layout, List.mem_cons, List.not_mem_nil, or_false] at hf
  rcases hf with rfl | rfl
  all_goals obtain ⟨a, ha, ⟨⟩⟩ := bind_eq_ok_iff.1 h
  case inl =>
    obtain ⟨v, hv, vs, rfl, hr⟩ := FunctionDecl.layout_reads.listOf ha
    exact ⟨_, hv, .inl ⟨rfl, a, hr, rfl⟩⟩
  case inr =>
    obtain ⟨v, hv, ms, rfl, hr⟩ := RulesDecl.layout_reads.mapOf ha
    exact ⟨_, hv, .inr ⟨rfl, a, hr.keys_eq, rfl⟩⟩

theorem readsValues : layout.ReadsValues :=
  fun _ hf _ _ _ _ h => (read_eq_ok hf h).imp fun _ hv => hv.1

theorem sets_functions : layout.Sets "functions" Source.functions fun v ds =>
    List.Forall₂ FunctionDecl.ReadFrom v.items ds where
  reads _ hf hn _ _ _ _ h := by grind [read_eq_ok hf h]
  keeps _ hf hn _ _ _ _ h := by grind [read_eq_ok hf h]

theorem sets_entries : layout.Sets "entries" Source.entries fun v es =>
    es.map Prod.fst = v.keys where
  reads _ hf hn _ _ _ _ h := by grind [read_eq_ok hf h]
  keeps _ hf hn _ _ _ _ h := by grind [read_eq_ok hf h]

end Fields

theorem layout_reads : layout.decode.Reads StandsIn := by
  intro room node s h
  obtain ⟨v, hv, ms, draft, hms, ⟨⟩, hparts⟩ :=
    Json.Layout.reads_record readsValues rfl (by decide) h
  have hfield (key : String) : field? key v = findMember? key ms := by rw [field?, hms]; rfl
  refine ⟨v, hv, ?functions, ?entries⟩
  case functions =>
    have hp := hparts sets_functions
    rw [functionValues, hfield]
    cases hf : findMember? "functions" ms <;> rw [hf] at hp
    case none   => exact hp ▸ .nil
    case some w => exact hp
  case entries =>
    have hp := hparts sets_entries
    rw [entryTypes, hfield]
    cases hf : findMember? "entries" ms <;> rw [hf] at hp
    case none   => exact congrArg (List.map Prod.fst) hp
    case some w => exact hp

theorem exists_document {code : String} {s : Source} (h : ofText code = .ok s) :
    ∃ document, Value.ofText code = .ok document ∧ s.StandsIn document :=
  layout_reads.ofText h

end Source

-- A nucleus has rules for the entry types of its document, of which none stands there twice.
theorem rules_of_load {π : Type} [PatternLanguage π] {code : String} {n : Declared π}
    (h : load code = .ok n) :
    ∃ document, Value.ofText code = .ok document ∧
      n.rules.map Prod.fst = entryTypes document ∧ (entryTypes document).Nodup := by
  obtain ⟨s, hs, l⟩ := load_eq_ok h
  obtain ⟨document, hd, stands⟩ := Source.exists_document hs
  have hn : (s.entries.map Prod.fst).Nodup := (Source.sorted_of_ofText hs).entries.nodup
  refine ⟨document, hd, ?_, stands.entries ▸ hn⟩
  rw [← stands.entries]
  exact Json.keys_of_forall₂ (R := fun _ d r => Compiled d r) l.rules

end Declared
end ChainHost
