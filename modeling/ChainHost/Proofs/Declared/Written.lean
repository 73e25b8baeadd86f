import ChainHost.Proofs.Declared.Document
import ChainHost.Proofs.Json.Fields
import Mathlib.Tactic.MkIffOfInductiveProp

namespace ChainHost.Declared

open Json (Tree Optionally Nested IsList IsMap)
open Json.Layout (Gathers Taken)

namespace FunctionDecl

-- What a member of a function does to its draft.
@[mk_iff]
inductive Puts (room : Nat) (key : String) (t : Tree) (draft : Draft) : Draft → Prop
  | name {s} (hk : key = "name") (h : t.IsString s) :
    Puts room key t draft { draft with name := some s }
  | schema {s} (hk : key = "schema") (h : t.IsSchema room s) :
    Puts room key t draft { draft with schema := some s }
  | returns {v} (hk : key = "returns") (h : Optionally (Tree.Denotes room) t v) :
    Puts room key t draft { draft with returns := v }
  | error {e} (hk : key = "error") (h : Optionally Tree.IsString t e) :
    Puts room key t draft { draft with error := e }

theorem fieldsMake : layout.FieldsMake Puts := by
  intro f hf room draft node t draft' h
  simp only [layout, List.mem_cons, List.not_mem_nil, or_false] at hf
  rcases hf with rfl | rfl | rfl | rfl
  all_goals
    simp only [bind_eq_ok_iff, Json.string_makes room h, Json.schema_makes room h,
      Json.anyValue_makes.optional room h, Json.string_makes.optional room h]
    constructor
    case mpr =>
      intro hp
      cases hp <;> first | exact ⟨_, ‹_›, rfl⟩ | simp at *
  case inl.mp             => rintro ⟨_, h, ⟨⟩⟩; exact .name rfl h
  case inr.inl.mp         => rintro ⟨_, h, ⟨⟩⟩; exact .schema rfl h
  case inr.inr.inl.mp     => rintro ⟨_, h, ⟨⟩⟩; exact .returns rfl h
  case inr.inr.inr.mp     => rintro ⟨_, h, ⟨⟩⟩; exact .error rfl h

-- A declaration that was read from a tree.
structure Written (t : Tree) (d : FunctionDecl) : Prop where
  shape   : layout.StandsIn t
  name    : ("name", .string d.name) ∈ t.fields layout.names
  schema  : ∃ room s, ("schema", s) ∈ t.fields layout.names ∧ s.IsSchema room d.schema
  returns : ∃ room, Taken (Optionally (Tree.Denotes room)) (t.fields layout.names) "returns" none
    d.returns
  error   : Taken (Optionally Tree.IsString) (t.fields layout.names) "error" none d.error

variable {room : Nat} {t : Tree} {d : FunctionDecl}

theorem written_of_made (h : layout.Made (Puts room) t d) : d.Written t := by
  cases h
  case intro draft hs hg hf =>
    obtain ⟨name, hname, hf⟩ := bind_eq_ok_iff.1 hf
    obtain ⟨schema, hschema, ⟨⟩⟩ := bind_eq_ok_iff.1 hf
    have hn := hs.nodup (by decide)
    have name : Taken (fun t a => ∃ s, t.IsString s ∧ a = some s) _ "name" none draft.name :=
      hg.taken hn Draft.name (by grind [Puts]) (by grind [Puts])
    have schema : Taken (fun t a => ∃ s, t.IsSchema room s ∧ a = some s) _ "schema" none
        draft.schema :=
      hg.taken hn Draft.schema (by grind [Puts]) (by grind [Puts])
    rw [Json.required_eq_ok hname] at name
    rw [Json.required_eq_ok hschema] at schema
    refine ⟨hs, ?name, ⟨room, schema.exists_mem rfl⟩, ⟨room, ?returns⟩, ?error⟩
    case name =>
      obtain ⟨_, hm, rfl⟩ := name.exists_mem rfl
      exact hm
    case returns => exact hg.taken hn Draft.returns (by grind [Puts]) (by grind [Puts])
    case error   => exact hg.taken hn Draft.error (by grind [Puts]) (by grind [Puts])

end FunctionDecl

namespace RulesDecl

-- What a member of a rule set does to it.
@[mk_iff]
inductive Puts (room : Nat) (key : String) (t : Tree) (draft : RulesDecl) : RulesDecl → Prop
  | required {names} (hk : key = "required")
      (h : Nested (fun _ => IsList Tree.IsString) room t names) :
    Puts room key t draft { draft with required := names }
  | fields {fs} (hk : key = "fields")
      (h : Nested (fun _ => IsMap Tree.IsString) room t fs) :
    Puts room key t draft { draft with fields := fs }
  | pattern {p} (hk : key = "pattern") (h : Optionally Tree.IsString t p) :
    Puts room key t draft { draft with pattern := p }
  | maxLength {k} (hk : key = "max_length") (h : Optionally Tree.IsSize t k) :
    Puts room key t draft { draft with maxLength := k }

theorem fieldsMake : layout.FieldsMake Puts := by
  intro f hf room draft node t draft' h
  simp only [layout, List.mem_cons, List.not_mem_nil, or_false] at hf
  rcases hf with rfl | rfl | rfl | rfl
  all_goals
    simp only [bind_eq_ok_iff, Json.string_makes.listOf room h, Json.string_makes.mapOf room h,
      Json.string_makes.optional room h, Json.size_makes.optional room h]
    constructor
    case mpr =>
      intro hp
      cases hp <;> first | exact ⟨_, ‹_›, rfl⟩ | simp at *
  case inl.mp         => rintro ⟨_, h, ⟨⟩⟩; exact .required rfl h
  case inr.inl.mp     => rintro ⟨_, h, ⟨⟩⟩; exact .fields rfl h
  case inr.inr.inl.mp => rintro ⟨_, h, ⟨⟩⟩; exact .pattern rfl h
  case inr.inr.inr.mp => rintro ⟨_, h, ⟨⟩⟩; exact .maxLength rfl h

-- A rule set that was read from a tree.
structure Written (t : Tree) (d : RulesDecl) : Prop where
  shape     : layout.StandsIn t
  required  : Taken (IsList Tree.IsString) (t.fields layout.names) "required" [] d.required
  fields    : Taken (IsMap Tree.IsString) (t.fields layout.names) "fields" [] d.fields
  pattern   : Taken (Optionally Tree.IsString) (t.fields layout.names) "pattern" none d.pattern
  maxLength : Taken (Optionally Tree.IsSize) (t.fields layout.names) "max_length" none d.maxLength

theorem written_of_made {room : Nat} {t : Tree} {d : RulesDecl} (h : layout.Made (Puts room) t d) :
    d.Written t := by
  match h with
  | .intro hs hg rfl =>
    have hn := hs.nodup (by decide)
    refine ⟨hs, ?required, ?fields, ?pattern, ?maxLength⟩
    case required  => exact hg.taken hn RulesDecl.required (by grind [Puts, Nested]) (by grind [Puts])
    case fields    => exact hg.taken hn RulesDecl.fields (by grind [Puts, Nested]) (by grind [Puts])
    case pattern   => exact hg.taken hn RulesDecl.pattern (by grind [Puts]) (by grind [Puts])
    case maxLength => exact hg.taken hn RulesDecl.maxLength (by grind [Puts]) (by grind [Puts])

end RulesDecl

namespace Source

-- What a member of a source does to it.
@[mk_iff]
inductive Puts (room : Nat) (key : String) (t : Tree) (draft : Source) : Source → Prop
  | functions {ds} (hk : key = "functions")
      (h : Nested (fun room => IsList (Nested (fun room =>
        FunctionDecl.layout.Made (FunctionDecl.Puts room)) room)) room t ds) :
    Puts room key t draft { draft with functions := ds }
  | entries {es} (hk : key = "entries")
      (h : Nested (fun room => IsMap (Nested (fun room =>
        RulesDecl.layout.Made (RulesDecl.Puts room)) room)) room t es) :
    Puts room key t draft { draft with entries := es }

theorem fieldsMake : layout.FieldsMake Puts := by
  intro f hf room draft node t draft' h
  simp only [layout, List.mem_cons, List.not_mem_nil, or_false] at hf
  rcases hf with rfl | rfl
  all_goals
    simp only [bind_eq_ok_iff, (FunctionDecl.fieldsMake.decode rfl).listOf room h,
      (RulesDecl.fieldsMake.decode rfl).mapOf room h]
    constructor
    case mpr =>
      intro hp
      cases hp <;> first | exact ⟨_, ‹_›, rfl⟩ | simp at *
  case inl.mp => rintro ⟨_, h, ⟨⟩⟩; exact .functions rfl h
  case inr.mp => rintro ⟨_, h, ⟨⟩⟩; exact .entries rfl h

-- A text is read as a source just as its tree tells.
theorem ofText_eq_ok_iff {text : String} {t : Tree} (ht : t.HasText text) {s : Source} :
    ofText text = .ok s ↔ Nested (fun room => layout.Made (Puts room)) Json.maxOpen t s :=
  (fieldsMake.decode rfl).ofText_eq_ok_iff ht

theorem exists_hasText {text : String} {s : Source} (h : ofText text = .ok s) :
    ∃ t : Tree, t.HasText text :=
  have ⟨_, hd, _⟩ := exists_document h
  Json.exists_hasText hd

-- A source that was read from a tree.
structure Written (t : Tree) (s : Source) : Prop where
  shape     : layout.StandsIn t
  functions : Taken (IsList fun t d => d.Written t) (t.fields layout.names) "functions" [] s.functions
  entries   : Taken (IsMap fun t d => d.Written t) (t.fields layout.names) "entries" [] s.entries

theorem written_of_ofText {text : String} {t : Tree} {s : Source} (ht : t.HasText text)
    (h : ofText text = .ok s) : s.Written t := by
  match (ofText_eq_ok_iff ht).1 h with
  | .intro (.intro hs hg rfl) =>
    have hn := hs.nodup (by decide)
    refine ⟨hs, ?functions, ?entries⟩
    case functions =>
      refine hg.taken hn Source.functions (fun hp => ?_) (by grind [Puts])
      cases hp
      case functions h =>
        match h with
        | .intro h => exact h.imp fun t d ⟨h⟩ => FunctionDecl.written_of_made h
      case entries => simp at *
    case entries =>
      refine hg.taken hn Source.entries (fun hp => ?_) (by grind [Puts])
      cases hp
      case functions => simp at *
      case entries h =>
        match h with
        | .intro h => exact h.imp fun t d ⟨h⟩ => RulesDecl.written_of_made h

end Source
end ChainHost.Declared
