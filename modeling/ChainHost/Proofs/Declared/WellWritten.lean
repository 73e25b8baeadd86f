import ChainHost.Proofs.Declared.Written

namespace ChainHost

namespace Json

-- A record of fields with the given names, of which it has those that are required. In an array the
-- fields stand in their order, and only the last ones can be left out.
inductive Tree.IsRecord (names required : List String) : Tree → Prop
  | object {ms} (known : ∀ m ∈ ms, m.1 ∈ names) (once : (ms.map Prod.fst).Nodup)
      (present : ∀ key ∈ required, key ∈ ms.map Prod.fst) : IsRecord names required (.object ms)
  | array {ts} (least : required.length ≤ ts.length) (most : ts.length ≤ names.length) :
    IsRecord names required (.array ts)

theorem idxOf_lt_of_mem_zip {key : String} {t : Tree} {names : List String} {ts : List Tree}
    (h : (key, t) ∈ names.zip ts) : names.idxOf key < ts.length := by
  induction names generalizing ts
  case nil => cases h
  case cons name names hi =>
    cases ts
    case nil => cases h
    case cons t' ts =>
      rw [List.idxOf_cons]
      by_cases hk : name = key
      case pos => simp [hk]
      case neg =>
        rcases List.mem_cons.1 h with h | h
        case inl => exact absurd (congrArg Prod.fst h).symm hk
        case inr =>
          have hk : (name == key) = false := by simpa using hk
          simpa [hk] using hi h

namespace Layout

variable {σ α : Type} {l : Layout σ α} {t : Tree} {required : List String}

-- A record that has the fields of the given names, the first ones, and so at least as many.
theorem StandsIn.isRecord (h : l.StandsIn t)
    (hr : ∀ key ∈ required, ∃ value, (key, value) ∈ t.fields l.names)
    (hlast : ∀ key ∈ required.getLast?, required.length = l.names.idxOf key + 1) :
    t.IsRecord l.names required := by
  cases h
  case object hk hn =>
    refine .object hk hn fun key hkey => ?_
    obtain ⟨value, hv⟩ := hr key hkey
    exact List.mem_map_of_mem hv
  case array ts hlen =>
    refine .array ?_ (by simpa [names] using hlen)
    cases hl : required.getLast?
    case none => simp [List.getLast?_eq_none_iff.1 hl]
    case some key =>
      obtain ⟨value, hv⟩ := hr key (List.mem_of_getLast? hl)
      exact hlast key hl ▸ idxOf_lt_of_mem_zip hv

end Layout

-- What names a schema: its name, or an object with the name for its one key.
def Tree.NamesSchema (t : Tree) (s : Schema) : Prop :=
  t = .string s.name ∨ t = .object [(s.name, .null)]

theorem Tree.IsSchema.names {room : Nat} {t : Tree} {s : Schema} (h : t.IsSchema room s) :
    t.NamesSchema s := by
  cases h
  case name => exact .inl rfl
  case key  => exact .inr rfl

end Json

namespace Declared

open Json (Tree)
open Json.Layout (Taken)

-- A function has a name and one of the two schemas, and may have a constant and an error.
structure FunctionDecl.WellWritten (t : Tree) : Prop where
  record : t.IsRecord ["name", "schema", "returns", "error"] ["name", "schema"]
  name   : ∀ value, ("name", value) ∈ t.fields layout.names → ∃ s, value = .string s
  schema : ∀ value, ("schema", value) ∈ t.fields layout.names → ∃ s, value.NamesSchema s
  error  : ∀ value, ("error", value) ∈ t.fields layout.names → value = .null ∨ ∃ s, value = .string s

structure RulesDecl.WellWritten (t : Tree) : Prop where
  record    : t.IsRecord ["required", "fields", "pattern", "max_length"] []
  required  : ∀ value, ("required", value) ∈ t.fields layout.names →
    ∃ names : List String, value = .array (names.map .string)
  fields    : ∀ value, ("fields", value) ∈ t.fields layout.names →
    ∃ patterns : List (String × String), value = .object (patterns.map fun p => (p.1, .string p.2))
  pattern   : ∀ value, ("pattern", value) ∈ t.fields layout.names →
    value = .null ∨ ∃ s, value = .string s
  maxLength : ∀ value, ("max_length", value) ∈ t.fields layout.names →
    value = .null ∨ ∃ n : Json.Numeral, value = .number n ∧ n.IsSize

structure Source.WellWritten (t : Tree) : Prop where
  record    : t.IsRecord ["functions", "entries"] []
  functions : ∀ value, ("functions", value) ∈ t.fields layout.names →
    ∃ ts, value = .array ts ∧ ∀ f ∈ ts, FunctionDecl.WellWritten f
  entries   : ∀ value, ("entries", value) ∈ t.fields layout.names →
    ∃ ms, value = .object ms ∧ ∀ m ∈ ms, RulesDecl.WellWritten m.2

section Reading

variable {t value : Tree} {s : Option String}

theorem eq_null_or_string (h : Json.Optionally Tree.IsString t s) :
    t = .null ∨ ∃ s, t = .string s :=
  h.eq_null_or.imp_right fun ⟨s, hs, _⟩ => ⟨s, hs⟩

theorem eq_map_of_isString {ts : List Tree} {names : List String}
    (h : List.Forall₂ Tree.IsString ts names) : ts = names.map .string := by
  rw [← List.forall₂_eq_eq_eq, List.forall₂_map_right_iff]
  exact h

theorem eq_map_of_keyed {ms : List (String × Tree)} {fs : List (String × String)}
    (h : Json.Keyed Tree.IsString ms fs) : ms = fs.map fun f => (f.1, .string f.2) := by
  rw [← List.forall₂_eq_eq_eq, List.forall₂_map_right_iff]
  exact h.imp fun m f hm => Prod.ext hm.1.symm hm.2

theorem FunctionDecl.Written.wellWritten {d : FunctionDecl} (h : d.Written t) :
    FunctionDecl.WellWritten t := by
  have hn := h.shape.nodup (by decide)
  obtain ⟨room, schema, hschema, hs⟩ := h.schema
  refine ⟨?record, fun value hv => ?name, fun value hv => ?schema, fun value hv => ?error⟩
  case record =>
    refine h.shape.isRecord ?_ (by decide)
    simp only [List.mem_cons, List.not_mem_nil, or_false]
    rintro key (rfl | rfl)
    case inl => exact ⟨_, h.name⟩
    case inr => exact ⟨_, hschema⟩
  case name => exact ⟨_, Json.eq_of_mem_of_nodup hn hv h.name⟩
  case schema =>
    cases Json.eq_of_mem_of_nodup hn hv hschema
    exact ⟨_, hs.names⟩
  case error => exact eq_null_or_string (h.error.of_mem hn hv)

theorem RulesDecl.Written.wellWritten {d : RulesDecl} (h : d.Written t) :
    RulesDecl.WellWritten t := by
  have hn := h.shape.nodup (by decide)
  refine ⟨?record, fun value hv => ?required, fun value hv => ?fields, fun value hv => ?pattern,
    fun value hv => ?maxLength⟩
  case record => exact h.shape.isRecord (by simp) (by simp)
  case required =>
    cases h.required.of_mem hn hv
    case intro h => exact ⟨_, congrArg _ (eq_map_of_isString h)⟩
  case fields =>
    obtain ⟨_, fs, rfl, h, _⟩ := (h.fields.of_mem hn hv).exists_keyed
    exact ⟨fs, congrArg _ (eq_map_of_keyed h)⟩
  case pattern => exact eq_null_or_string (h.pattern.of_mem hn hv)
  case maxLength =>
    refine (h.maxLength.of_mem hn hv).eq_null_or.imp_right fun ⟨k, ⟨n, hn, hv⟩, _⟩ => ?_
    exact ⟨n, hn, Json.Numeral.isSize_of_value hv⟩

theorem Source.Written.wellWritten {s : Source} (h : s.Written t) : Source.WellWritten t := by
  have hn := h.shape.nodup (by decide)
  refine ⟨h.shape.isRecord (by simp) (by simp), fun value hv => ?functions, fun value hv => ?entries⟩
  case functions =>
    cases h.functions.of_mem hn hv
    case intro h =>
      refine ⟨_, rfl, fun f hf => ?_⟩
      obtain ⟨d, _, hd⟩ := exists_of_mem_of_forall₂ h hf
      exact hd.wellWritten
  case entries =>
    obtain ⟨ms, _, rfl, h, _⟩ := (h.entries.of_mem hn hv).exists_keyed
    refine ⟨ms, rfl, fun m hm => ?_⟩
    obtain ⟨d, _, hd⟩ := exists_of_mem_of_forall₂ h hm
    exact hd.2.wellWritten

end Reading

variable {π : Type} [PatternLanguage π] {code : String} {n : Declared π}

-- What makes a nucleus is the text of a tree, and each tree of which it is one is well written.
theorem source_is_well_written (h : load code = .ok n) :
    (∃ t : Tree, t.HasText code) ∧ ∀ t : Tree, t.HasText code → Source.WellWritten t := by
  obtain ⟨s, hs, _⟩ := load_eq_ok h
  exact ⟨Source.exists_hasText hs, fun t ht => (Source.written_of_ofText ht hs).wellWritten⟩

-- One entry type has two rule sets, the second in an array.
def arrayForObjectCode : String :=
  "\x7b\"entries\":\x7b\"a\":\x7b\"max_length\":16\x7d,\"a\":[[],\x7b\x7d,\"#\"]\x7d\x7d"

theorem source_is_well_written_repeatedly :
    ∃ n : Declared Pattern, load arrayForObjectCode = .ok n ∧
      ∃ t : Tree, t.HasText arrayForObjectCode ∧ Source.WellWritten t := by
  have hs : Source.ofText arrayForObjectCode =
      .ok ⟨[], [("a", ⟨[], [], some "#", none⟩)]⟩ := by cbv
  obtain ⟨n, hn⟩ := exists_load (π := Pattern) hs (by decide +kernel)
  obtain ⟨⟨t, ht⟩, hw⟩ := source_is_well_written hn
  exact ⟨n, hn, t, ht, hw t ht⟩

end Declared
end ChainHost
