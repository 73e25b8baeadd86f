import ChainHost.Manifest
import ChainHost.Proofs.Json.Fields
import ChainHost.Proofs.Json.Writing

namespace ChainHost

open Json (Tree Optionally Nested Value)
open Json.Layout (Gathers Taken)

namespace NucleusSection

-- What a member of a section does to its draft.
inductive Puts (key : String) (t : Tree) (draft : Draft) : Draft → Prop
  | type {s} (hk : key = "type") (h : t.IsString s) : Puts key t draft { draft with type := some s }
  | code {c} (hk : key = "code") (h : Optionally Tree.IsString t c) :
    Puts key t draft { draft with code := c }
  | codeFile {p} (hk : key = "code_file") (h : Optionally Tree.IsString t p) :
    Puts key t draft { draft with codeFile := p }

theorem fieldsMake : layout.FieldsMake fun _ => Puts := by
  intro f hf room draft node t draft' h
  simp only [layout, List.mem_cons, List.not_mem_nil, or_false] at hf
  rcases hf with rfl | rfl | rfl
  all_goals
    simp only [bind_eq_ok_iff, Json.string_makes room h, Json.string_makes.optional room h,
      Json.path_makes.optional room h]
    constructor
    case mpr =>
      intro hp
      cases hp <;> first | exact ⟨_, ‹_›, rfl⟩ | simp at *
  case inl.mp     => rintro ⟨_, h, ⟨⟩⟩; exact .type rfl h
  case inr.inl.mp => rintro ⟨_, h, ⟨⟩⟩; exact .code rfl h
  case inr.inr.mp => rintro ⟨_, h, ⟨⟩⟩; exact .codeFile rfl h

-- A section as it stands in a tree.
structure Written (t : Tree) (s : NucleusSection) : Prop where
  shape    : layout.StandsIn t
  type     : ("type", .string s.type) ∈ t.fields layout.names
  code     : Taken (Optionally Tree.IsString) (t.fields layout.names) "code" none s.code
  codeFile : Taken (Optionally Tree.IsString) (t.fields layout.names) "code_file" none s.codeFile

variable {t : Tree} {s s' : NucleusSection} {draft : Draft} {text : String}

theorem finish_eq_ok_iff : layout.finish draft = .ok s ↔
    draft.type = some s.type ∧ draft.code = s.code ∧ draft.codeFile = s.codeFile := by
  obtain ⟨type, code, codeFile⟩ := s
  cases htype : draft.type <;>
    simp [layout, htype, Json.required, bind, Except.bind, pure, Except.pure]

theorem Written.unique (h : s.Written t) (h' : s'.Written t) : s = s' := by
  have hn := h.shape.nodup (by decide)
  have hu := Optionally.rightUnique Tree.isString_rightUnique
  have htype := Json.eq_of_mem_of_nodup hn h.type h'.type
  obtain ⟨type, code, codeFile⟩ := s
  obtain rfl : type = s'.type := Tree.string.inj htype
  obtain rfl : code = s'.code := h.code.unique hu hn h'.code
  obtain rfl : codeFile = s'.codeFile := h.codeFile.unique hu hn h'.codeFile
  rfl

-- What is left in a draft by the members of a section.
structure Gathered (t : Tree) (draft : Draft) : Prop where
  type     : Taken (fun t a => ∃ s, t.IsString s ∧ a = some s) (t.fields layout.names) "type" none
    draft.type
  code     : Taken (Optionally Tree.IsString) (t.fields layout.names) "code" none draft.code
  codeFile : Taken (Optionally Tree.IsString) (t.fields layout.names) "code_file" none draft.codeFile

theorem gathered (hs : layout.StandsIn t)
    (hg : Gathers Puts (t.fields layout.names) layout.empty draft) : Gathered t draft := by
  have hn := hs.nodup (by decide)
  constructor
  case type     => exact hg.taken hn Draft.type (by grind [Puts]) (by grind [Puts])
  case code     => exact hg.taken hn Draft.code (by grind [Puts]) (by grind [Puts])
  case codeFile => exact hg.taken hn Draft.codeFile (by grind [Puts]) (by grind [Puts])

theorem made_iff : layout.Made Puts t s ↔ s.Written t := by
  constructor
  case mp =>
    rintro ⟨hs, hg, hf⟩
    obtain ⟨htype, hcode, hfile⟩ := gathered hs hg
    obtain ⟨he, he', he''⟩ := finish_eq_ok_iff.1 hf
    rw [he] at htype
    obtain ⟨_, hm, rfl⟩ := htype.exists_mem rfl
    exact ⟨hs, hm, he' ▸ hcode, he'' ▸ hfile⟩
  case mpr =>
    intro h
    have hn := h.shape.nodup (by decide)
    have hputs : ∀ m ∈ t.fields layout.names, ∀ draft, ∃ draft', Puts m.1 m.2 draft draft' := by
      intro m hm draft
      obtain ⟨key, v⟩ := m
      have hk : key ∈ ["type", "code", "code_file"] := h.shape.mem_names _ hm
      simp only [List.mem_cons, List.not_mem_nil, or_false] at hk
      rcases hk with rfl | rfl | rfl
      case inl =>
        obtain rfl := Json.eq_of_mem_of_nodup hn hm h.type
        exact ⟨_, .type rfl rfl⟩
      case inr.inl => exact ⟨_, .code rfl (h.code.of_mem hn hm)⟩
      case inr.inr => exact ⟨_, .codeFile rfl (h.codeFile.of_mem hn hm)⟩
    obtain ⟨draft, hg⟩ := Json.Layout.exists_gathers hputs layout.empty
    obtain ⟨htype, hcode, hfile⟩ := gathered h.shape hg
    obtain ⟨_, ⟨⟩, he⟩ := htype.of_mem hn h.type
    have hw : Written t ⟨s.type, draft.code, draft.codeFile⟩ := ⟨h.shape, h.type, hcode, hfile⟩
    have hs := hw.unique h
    exact .intro h.shape hg
      (finish_eq_ok_iff.2 ⟨he, congrArg NucleusSection.code hs, congrArg codeFile hs⟩)

-- What is read as a section could be read as a value.
theorem layout_reads : layout.decode.Reads layout.Read := by
  refine Json.Layout.reads_record ?_ rfl (by decide)
  intro f hf room node draft draft' h
  simp only [layout, List.mem_cons, List.not_mem_nil, or_false] at hf
  rcases hf with rfl | rfl | rfl
  all_goals obtain ⟨a, ha, -⟩ := bind_eq_ok_iff.1 h
  case inl     => exact (Json.string_reads ha).imp fun _ hv => hv.1
  case inr.inl => exact (Json.string_reads.optional ha).imp fun _ hv => hv.1
  case inr.inr => exact (Json.path_reads.optional ha).imp fun _ hv => hv.1

theorem ofText_eq_ok_iff (ht : t.HasText text) : ofText text = .ok s ↔ s.Written t := by
  rw [ofText, (fieldsMake.decode rfl).ofText_eq_ok_iff ht, Json.maxOpen, Json.nested_succ_iff,
    made_iff]

theorem written_toValue (s : NucleusSection) : s.Written s.toValue.tree := by
  obtain ⟨type, code, codeFile⟩ := s
  have hsome (p : String) : Optionally Tree.IsString (.string p) (some p) := .some (by simp) rfl
  rw [toValue, Value.tree]
  constructor
  case shape =>
    constructor <;> cases code <;> cases codeFile <;>
      simp [Value.treesOfMembers, Json.Layout.names, layout]
  case type => exact List.mem_cons_self
  case code =>
    cases code
    case none   => exact .absent (by cases codeFile <;> simp [Value.treesOfMembers, Tree.fields]) rfl
    case some c => exact .member (by simp [Value.treesOfMembers, Value.tree, Tree.fields]) (hsome c)
  case codeFile =>
    cases codeFile
    case none => exact .absent (by cases code <;> simp [Value.treesOfMembers, Tree.fields]) rfl
    case some p =>
      refine .member ?_ (hsome p)
      cases code <;> simp [Value.treesOfMembers, Value.tree, Tree.fields]

theorem ofText_text (s : NucleusSection) : ofText s.text = .ok s :=
  (ofText_eq_ok_iff (Value.hasText_text _)).2 s.written_toValue

end NucleusSection

namespace Manifest

-- What a member of a manifest does to its draft.
inductive Puts (room : Nat) (key : String) (t : Tree) (draft : Draft) : Draft → Prop
  | name {s} (hk : key = "name") (h : t.IsString s) :
    Puts room key t draft { draft with name := some s }
  | nucleus {s} (hk : key = "nucleus")
      (h : Nested (fun _ => NucleusSection.layout.Made NucleusSection.Puts) room t s) :
    Puts room key t draft { draft with nucleus := some s }

theorem fieldsMake : layout.FieldsMake Puts := by
  intro f hf room draft node t draft' h
  simp only [layout, List.mem_cons, List.not_mem_nil, or_false] at hf
  rcases hf with rfl | rfl
  all_goals
    simp only [bind_eq_ok_iff, Json.string_makes room h, NucleusSection.fieldsMake.decode rfl room h]
    constructor
    case mpr =>
      intro hp
      cases hp <;> first | exact ⟨_, ‹_›, rfl⟩ | simp at *
  case inl.mp => rintro ⟨_, h, ⟨⟩⟩; exact .name rfl h
  case inr.mp => rintro ⟨_, h, ⟨⟩⟩; exact .nucleus rfl h

-- A manifest as it stands in a tree.
structure Written (t : Tree) (m : Manifest) : Prop where
  shape   : layout.StandsIn t
  name    : ("name", .string m.name) ∈ t.fields layout.names
  nucleus : ∃ u, ("nucleus", u) ∈ t.fields layout.names ∧ m.nucleus.Written u

variable {room : Nat} {t : Tree} {m : Manifest} {draft : Draft} {text : String}

theorem finish_eq_ok_iff :
    layout.finish draft = .ok m ↔ draft.name = some m.name ∧ draft.nucleus = some m.nucleus := by
  obtain ⟨name, nucleus⟩ := m
  cases hname : draft.name <;> cases hnucleus : draft.nucleus <;>
    simp [layout, hname, hnucleus, Json.required, bind, Except.bind, pure, Except.pure]

-- What is left in a draft by the members of a manifest.
structure Gathered (t : Tree) (draft : Draft) : Prop where
  name    : Taken (fun t a => ∃ s, t.IsString s ∧ a = some s) (t.fields layout.names) "name" none
    draft.name
  nucleus : Taken (fun t a => ∃ s : NucleusSection, s.Written t ∧ a = some s)
    (t.fields layout.names) "nucleus" none draft.nucleus

theorem gathered (hs : layout.StandsIn t)
    (hg : Gathers (Puts (room + 1)) (t.fields layout.names) layout.empty draft) :
    Gathered t draft := by
  have hn := hs.nodup (by decide)
  constructor
  case name    => exact hg.taken hn Draft.name (by grind [Puts]) (by grind [Puts])
  case nucleus =>
    refine hg.taken hn Draft.nucleus (fun hp => ?_) (by grind [Puts])
    cases hp
    case name      => simp at *
    case nucleus h => exact ⟨_, NucleusSection.made_iff.1 (Json.nested_succ_iff.1 h), rfl⟩

theorem made_iff : layout.Made (Puts (room + 1)) t m ↔ m.Written t := by
  constructor
  case mp =>
    rintro ⟨hs, hg, hf⟩
    obtain ⟨hname, hnucleus⟩ := gathered hs hg
    obtain ⟨he, he'⟩ := finish_eq_ok_iff.1 hf
    rw [he] at hname
    rw [he'] at hnucleus
    obtain ⟨_, hm, rfl⟩ := hname.exists_mem rfl
    exact ⟨hs, hm, hnucleus.exists_mem rfl⟩
  case mpr =>
    rintro ⟨hs, hname, u, hu, hnucleus⟩
    have hn := hs.nodup (by decide)
    have hputs : ∀ m ∈ t.fields layout.names, ∀ draft, ∃ draft',
        Puts (room + 1) m.1 m.2 draft draft' := by
      intro m hm draft
      obtain ⟨key, v⟩ := m
      have hk : key ∈ ["name", "nucleus"] := hs.mem_names _ hm
      simp only [List.mem_cons, List.not_mem_nil, or_false] at hk
      rcases hk with rfl | rfl
      case inl =>
        obtain rfl := Json.eq_of_mem_of_nodup hn hm hname
        exact ⟨_, .name rfl rfl⟩
      case inr =>
        obtain rfl := Json.eq_of_mem_of_nodup hn hm hu
        exact ⟨_, .nucleus rfl (Json.nested_succ_iff.2 (NucleusSection.made_iff.2 hnucleus))⟩
    obtain ⟨draft, hg⟩ := Json.Layout.exists_gathers hputs layout.empty
    obtain ⟨hname', hnucleus'⟩ := gathered hs hg
    obtain ⟨_, ⟨⟩, he⟩ := hname'.of_mem hn hname
    obtain ⟨_, hw, he'⟩ := hnucleus'.of_mem hn hu
    obtain rfl := hw.unique hnucleus
    exact .intro hs hg (finish_eq_ok_iff.2 ⟨he, he'⟩)

theorem layout_reads : layout.decode.Reads layout.Read := by
  refine Json.Layout.reads_record ?_ rfl (by decide)
  intro f hf room node draft draft' h
  simp only [layout, List.mem_cons, List.not_mem_nil, or_false] at hf
  rcases hf with rfl | rfl
  all_goals obtain ⟨a, ha, -⟩ := bind_eq_ok_iff.1 h
  case inl => exact (Json.string_reads ha).imp fun _ hv => hv.1
  case inr => exact (NucleusSection.layout_reads ha).imp fun _ hv => hv.1

theorem ofText_eq_ok_iff (ht : t.HasText text) : ofText text = .ok m ↔ m.Written t := by
  rw [ofText, (fieldsMake.decode rfl).ofText_eq_ok_iff ht, Json.maxOpen, Json.nested_succ_iff,
    made_iff]

-- A manifest that a text says.
def SaidBy (text : String) (m : Manifest) : Prop :=
  ∃ t : Tree, t.HasText text ∧ m.Written t

theorem ofText_eq_ok_iff_saidBy : ofText text = .ok m ↔ m.SaidBy text := by
  constructor
  case mp =>
    intro h
    obtain ⟨v, hv, -⟩ := layout_reads.ofText h
    obtain ⟨t, ht⟩ := Json.exists_hasText hv
    exact ⟨t, ht, (ofText_eq_ok_iff ht).1 h⟩
  case mpr =>
    rintro ⟨t, ht, hw⟩
    exact (ofText_eq_ok_iff ht).2 hw

theorem ofText_text (m : Manifest) : ofText m.text = .ok m := by
  refine (ofText_eq_ok_iff (Value.hasText_text _)).2 ⟨?shape, ?name, ?nucleus⟩
  case shape   => constructor <;> simp [Value.treesOfMembers, Json.Layout.names, layout]
  case name    => exact List.mem_cons_self
  case nucleus => exact ⟨_, .tail _ (.head _), m.nucleus.written_toValue⟩

end Manifest
end ChainHost
