import ChainHost.Interface
import ChainHost.Proofs.Json.Skimming
import ChainHost.Proofs.Json.Writing

namespace ChainHost

open Json (Tree Nested Value)
open Json.Layout (Gathers Taken)

-- What a member of a name with a schema does to its draft.
inductive NamedSchemaDraft.Puts (schemaName : String) (room : Nat) (key : String) (t : Tree)
    (draft : NamedSchemaDraft) : NamedSchemaDraft → Prop
  | name {s} (hk : key = "name") (h : t.IsString s) :
    Puts schemaName room key t draft { draft with name := some s }
  | schema {s} (hk : key = schemaName) (h : t.IsSchema room s) :
    Puts schemaName room key t draft { draft with schema := some s }

open NamedSchemaDraft (Puts)

-- A layout of records that are made of a name and of a schema under the name `schemaName`.
structure NamesSchema {α : Type} (l : Json.Layout NamedSchemaDraft α) (schemaName : String)
    (make : String → Schema → α) : Prop where
  ne     : schemaName ≠ "name"
  fields : l.fields = NamedSchemaDraft.fields schemaName
  strict : l.strict = false
  empty  : l.empty = { }
  finish : ∀ draft, l.finish draft = do
    return make (← Json.required "name" draft.name) (← Json.required schemaName draft.schema)

namespace NamesSchema

-- A name and a schema as they stand in a tree.
structure Written {α : Type} (l : Json.Layout NamedSchemaDraft α) (schemaName : String) (t : Tree)
    (name : String) (s : Schema) : Prop where
  shape  : l.StandsIn t
  name   : ("name", .string name) ∈ t.fields l.names
  schema : ∃ room u, (schemaName, u) ∈ t.fields l.names ∧ u.IsSchema room s

variable {α : Type} {l : Json.Layout NamedSchemaDraft α} {schemaName : String}
  {make : String → Schema → α} {room : Nat} {t : Tree} {draft : NamedSchemaDraft} {a : α}
  {name text : String} {s : Schema}

theorem names_eq (hl : NamesSchema l schemaName make) : l.names = ["name", schemaName] := by
  rw [Json.Layout.names, hl.fields]
  rfl

theorem nodup_names (hl : NamesSchema l schemaName make) : l.names.Nodup := by
  simpa [hl.names_eq] using hl.ne.symm

theorem finish_eq_ok_iff (hl : NamesSchema l schemaName make) :
    l.finish draft = .ok a ↔
      ∃ name s, draft.name = some name ∧ draft.schema = some s ∧ make name s = a := by
  rw [hl.finish]
  cases draft.name <;> cases draft.schema <;>
    simp [Json.required, bind, Except.bind, pure, Except.pure]

theorem fieldsMake (hl : NamesSchema l schemaName make) : l.FieldsMake (Puts schemaName) := by
  intro f hf room draft node t draft' h
  simp only [hl.fields, NamedSchemaDraft.fields, List.mem_cons, List.not_mem_nil, or_false] at hf
  have hne := hl.ne
  rcases hf with rfl | rfl
  all_goals
    simp only [bind_eq_ok_iff, Json.string_makes room h, Json.schema_makes room h]
    constructor
    case mpr =>
      intro hp
      cases hp <;> first | exact ⟨_, ‹_›, rfl⟩ | simp_all
  case inl.mp => rintro ⟨_, h, ⟨⟩⟩; exact .name rfl h
  case inr.mp => rintro ⟨_, h, ⟨⟩⟩; exact .schema rfl h

theorem taken (hl : NamesSchema l schemaName make) (hs : l.StandsIn t)
    (hg : Gathers (Puts schemaName room) (t.fields l.names) l.empty draft) :
    Taken (fun t a => ∃ s, t.IsString s ∧ a = some s) (t.fields l.names) "name" none draft.name ∧
      Taken (fun t a => ∃ s, t.IsSchema room s ∧ a = some s) (t.fields l.names) schemaName none
        draft.schema := by
  have hn := hs.nodup hl.nodup_names
  have hne := hl.ne
  rw [hl.empty] at hg
  constructor
  case left  => exact hg.taken hn NamedSchemaDraft.name (by grind [Puts]) (by grind [Puts])
  case right => exact hg.taken hn NamedSchemaDraft.schema (by grind [Puts]) (by grind [Puts])

theorem written_of_made (hl : NamesSchema l schemaName make)
    (h : l.Made (Puts schemaName room) t a) :
    ∃ name s, make name s = a ∧ Written l schemaName t name s := by
  cases h
  case intro draft hs hg hf =>
    obtain ⟨name, s, hname, hschema, rfl⟩ := hl.finish_eq_ok_iff.1 hf
    obtain ⟨hn, hu⟩ := hl.taken hs hg
    rw [hname] at hn
    rw [hschema] at hu
    obtain ⟨_, hm, rfl⟩ := hn.exists_mem rfl
    exact ⟨name, s, rfl, hs, hm, room, hu.exists_mem rfl⟩

theorem made_of_written (hl : NamesSchema l schemaName make) (h : Written l schemaName t name s)
    (room : Nat) : l.Made (Puts schemaName (room + 1)) t (make name s) := by
  obtain ⟨hs, hname, _, u, hu, hschema⟩ := h
  have hschema := hschema.of_room room
  have hn := hs.nodup hl.nodup_names
  have hputs : ∀ m ∈ t.fields l.names, ∀ draft, ∃ draft',
      Puts schemaName (room + 1) m.1 m.2 draft draft' := by
    intro m hm draft
    obtain ⟨key, v⟩ := m
    have hk := hs.mem_names _ hm
    simp only [hl.names_eq, List.mem_cons, List.not_mem_nil, or_false] at hk
    rcases hk with rfl | rfl
    case inl =>
      obtain rfl := Json.eq_of_mem_of_nodup hn hm hname
      exact ⟨_, .name rfl rfl⟩
    case inr =>
      obtain rfl := Json.eq_of_mem_of_nodup hn hm hu
      exact ⟨_, .schema rfl hschema⟩
  obtain ⟨draft, hg⟩ := Json.Layout.exists_gathers hputs l.empty
  obtain ⟨htaken, htaken'⟩ := hl.taken hs hg
  obtain ⟨_, ⟨⟩, hdraft⟩ := htaken.of_mem hn hname
  obtain ⟨_, hs', hdraft'⟩ := htaken'.of_mem hn hu
  obtain rfl := Tree.isSchema_rightUnique _ hs' hschema
  exact .intro hs hg (hl.finish_eq_ok_iff.2 ⟨_, _, hdraft, hdraft', rfl⟩)

-- A text is read as the members tell that are the record's own.
theorem ofText_eq_ok_iff (hl : NamesSchema l schemaName make) (ht : t.HasText text) :
    Json.decodeText l.decode text = .ok a ↔
      ∃ name s, make name s = a ∧ Written l schemaName (t.own l.names) name s := by
  rw [(hl.fieldsMake.decode_own hl.strict).ofText_eq_ok_iff ht, Json.maxOpen, Json.nested_succ_iff]
  constructor
  case mp => exact hl.written_of_made
  case mpr =>
    rintro ⟨name, s, rfl, h⟩
    exact hl.made_of_written h _

theorem ofText_text (hl : NamesSchema l schemaName make) (name : String) (s : Schema) :
    Json.decodeText l.decode
        (Value.object [("name", .string name), (schemaName, .string s.name)]).text =
      .ok (make name s) := by
  have hn := hl.names_eq
  have hne := hl.ne.symm
  refine (hl.ofText_eq_ok_iff (Value.hasText_text _)).2 ⟨name, s, rfl, ?_⟩
  simp only [Value.tree, Value.treesOfMembers, Tree.own, hn]
  exact ⟨.object (by simp [hn]) (by simp [hne]), by simp [Tree.fields],
    0, _, by simp [Tree.fields], .name 0 s⟩

end NamesSchema

theorem Interface.namesSchema : NamesSchema layout "schema" Interface.mk :=
  ⟨by decide, rfl, rfl, rfl, fun _ => rfl⟩

theorem EntryType.namesSchema : NamesSchema layout "format" EntryType.mk :=
  ⟨by decide, rfl, rfl, rfl, fun _ => rfl⟩

-- An interface as it stands in a tree.
def Interface.Written (t : Tree) (i : Interface) : Prop :=
  NamesSchema.Written layout "schema" t i.name i.schema

-- An entry type as it stands in a tree.
def EntryType.Written (t : Tree) (e : EntryType) : Prop :=
  NamesSchema.Written layout "format" t e.name e.format

section Texts

variable {t : Tree} {text : String}

theorem Interface.ofText_eq_ok_iff (ht : t.HasText text) {i : Interface} :
    ofText text = .ok i ↔ i.Written (t.own layout.names) := by
  rw [ofText, namesSchema.ofText_eq_ok_iff ht]
  constructor
  case mp  => rintro ⟨name, s, rfl, h⟩; exact h
  case mpr => exact fun h => ⟨i.name, i.schema, rfl, h⟩

theorem EntryType.ofText_eq_ok_iff (ht : t.HasText text) {e : EntryType} :
    ofText text = .ok e ↔ e.Written (t.own layout.names) := by
  rw [ofText, namesSchema.ofText_eq_ok_iff ht]
  constructor
  case mp  => rintro ⟨name, s, rfl, h⟩; exact h
  case mpr => exact fun h => ⟨e.name, e.format, rfl, h⟩

theorem Interface.ofText_text (i : Interface) : ofText i.text = .ok i :=
  namesSchema.ofText_text i.name i.schema

theorem EntryType.ofText_text (e : EntryType) : ofText e.text = .ok e :=
  namesSchema.ofText_text e.name e.format

end Texts
end ChainHost
