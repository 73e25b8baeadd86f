import ChainHost.Proofs.Declared.Validation
import ChainHost.Proofs.Declared.Written

namespace ChainHost.Declared

open Json (Tree Counts quoted_plain digit_plain)
open Json.Layout (Taken)

-- A rule on its own.
inductive Rule where
  | required (field : String)
  | field (name pattern : String)
  | pattern (pattern : String)
  | maxLength (k : Nat)

-- The pattern that a rule has.
def Rule.pattern? : Rule → Option String
  | .field _ p | .pattern p  => some p
  | .required _ | .maxLength _ => none

section Breaking

variable (π : Type) [PatternLanguage π]

-- Whether a payload breaks a rule. What has not the shape that the rule is for breaks it anyway.
def Rule.BrokenBy : Rule → Payload → Prop
  | .required name, .json (.object members) =>
    ∀ value, Json.findMember? name members = some value → value = .null
  | .field name p, .json (.object members) =>
    ∃ value, Json.findMember? name members = some value ∧
      ∀ text, value = .string text → ¬matchesText π p text
  | .pattern p, .text text   => ¬matchesText π p text
  | .maxLength k, .text text => k < text.length
  | _, _                     => True

end Breaking

-- The rules of a declaration.
inductive RulesDecl.Has (d : RulesDecl) : Rule → Prop
  | required {field} (h : field ∈ d.required) : Has d (.required field)
  | field {name p} (h : (name, p) ∈ d.fields) : Has d (.field name p)
  | pattern {p} (h : d.pattern = some p) : Has d (.pattern p)
  | maxLength {k} (h : d.maxLength = some k) : Has d (.maxLength k)

-- The rules that a tree writes down.
inductive RulesDecl.Writes (t : Tree) : Rule → Prop
  | required {fields field} (h : ("required", .array fields) ∈ t.fields layout.names)
    (hf : .string field ∈ fields) : Writes t (.required field)
  | field {ms name p} (h : ("fields", .object ms) ∈ t.fields layout.names)
    (hf : Counts name (.string p) ms) : Writes t (.field name p)
  | pattern {p} (h : ("pattern", .string p) ∈ t.fields layout.names) : Writes t (.pattern p)
  | maxLength {value k} (h : ("max_length", value) ∈ t.fields layout.names)
    (hk : value.IsSize k) : Writes t (.maxLength k)

-- The rules that a tree writes down for an entry type, in the rule set that counts.
inductive Source.Writes (t : Tree) (entry : String) (rule : Rule) : Prop
  | intro {es rules} (h : ("entries", .object es) ∈ t.fields layout.names)
    (hc : Counts entry rules es) (hr : RulesDecl.Writes rules rule)

section Admitting

variable {π : Type} [PatternLanguage π] {d : RulesDecl} {p : Payload}

theorem RulesDecl.exists_text_rule (h : d.hasTextRules) (value : Json.Value) :
    ∃ rule, d.Has rule ∧ rule.BrokenBy π (.json value) := by
  rcases hasTextRules_iff.1 h with h | h
  case inl =>
    obtain ⟨p, hp⟩ := Option.ne_none_iff_exists'.1 h
    exact ⟨_, .pattern hp, trivial⟩
  case inr =>
    obtain ⟨k, hk⟩ := Option.ne_none_iff_exists'.1 h
    exact ⟨_, .maxLength hk, trivial⟩

theorem RulesDecl.exists_object_rule (h : d.hasObjectRules)
    (hp : ∀ members, p ≠ .json (.object members)) : ∃ rule, d.Has rule ∧ rule.BrokenBy π p := by
  rcases hasObjectRules_iff.1 h with h | h
  case inl =>
    obtain ⟨name, hn⟩ := List.exists_mem_of_ne_nil _ h
    exact ⟨_, .required hn, by unfold Rule.BrokenBy; split <;> simp_all⟩
  case inr =>
    obtain ⟨f, hf⟩ := List.exists_mem_of_ne_nil _ h
    exact ⟨_, .field hf, by unfold Rule.BrokenBy; split <;> simp_all⟩

-- The violations of a declaration come from its rules.
theorem RulesDecl.exists_violated_iff :
    (∃ name, d.Violated π p name) ↔ ∃ rule, d.Has rule ∧ rule.BrokenBy π p := by
  constructor
  case mp =>
    rintro ⟨name, h⟩
    cases h
    case string value ht            => exact exists_text_rule ht value
    case object ho hp               => exact exists_object_rule ho hp
    case maxLength hk hl            => exact ⟨_, .maxLength hk, hl⟩
    case pattern hp hm              => exact ⟨_, .pattern hp, hm⟩
    case required hf hv             => exact ⟨_, .required hf, hv⟩
    case field value hf hv ht       => exact ⟨_, .field hf, value, hv, ht⟩
  case mpr =>
    rintro ⟨rule, h, hb⟩
    cases h
    case pattern hp =>
      cases p
      case text text  => exact ⟨_, .pattern text _ hp hb⟩
      case json value => exact ⟨_, .string value (hasTextRules_of_pattern hp)⟩
    case maxLength hk =>
      cases p
      case text text  => exact ⟨_, .maxLength text _ hk hb⟩
      case json value => exact ⟨_, .string value (hasTextRules_of_maxLength hk)⟩
    case required hf =>
      by_cases hp : ∃ members, p = .json (.object members)
      case neg => exact ⟨_, .object p (hasObjectRules_of_required hf) (not_exists.1 hp)⟩
      case pos =>
        obtain ⟨members, rfl⟩ := hp
        exact ⟨_, .required members _ hf hb⟩
    case field hf =>
      by_cases hp : ∃ members, p = .json (.object members)
      case neg => exact ⟨_, .object p (hasObjectRules_of_field hf) (not_exists.1 hp)⟩
      case pos =>
        obtain ⟨members, rfl⟩ := hp
        obtain ⟨value, hv, ht⟩ := hb
        exact ⟨_, .field members _ value hf hv ht⟩

theorem RulesDecl.admits_iff (hu : ¬(d.hasTextRules ∧ d.hasObjectRules)) :
    d.Admits π p ↔ ∀ rule, d.Has rule → ¬rule.BrokenBy π p := by
  constructor
  case mp =>
    intro ha rule hr hb
    obtain ⟨_, hv⟩ := exists_violated_iff.2 ⟨rule, hr, hb⟩
    exact not_violated_of_admits hu ha hv
  case mpr =>
    intro h
    refine admits_of_not_violated fun name hv => ?_
    obtain ⟨rule, hr, hb⟩ := exists_violated_iff.1 ⟨name, hv⟩
    exact h rule hr hb

end Admitting

section Reading

variable {t : Tree} {rule : Rule} {entry : String}

theorem RulesDecl.Written.writes_of_has {d : RulesDecl} (h : d.Written t) (hr : d.Has rule) :
    RulesDecl.Writes t rule := by
  cases hr
  case required name hr =>
    cases h.required
    case absent he => cases he ▸ hr
    case member value hm hl =>
      generalize d.required = names at hl hr
      cases hl
      case intro hl =>
        obtain ⟨_, hf, rfl⟩ := exists_of_mem_of_forall₂ hl.flip hr
        exact .required hm hf
  case field name p hf =>
    cases h.fields
    case absent he => cases he ▸ hf
    case member value hm hmap =>
      obtain ⟨ms, _, rfl, _⟩ := hmap.exists_keyed
      obtain ⟨_, hc, rfl⟩ := hmap.exists_counts hf
      exact .field hm hc
  case pattern p hp =>
    cases h.pattern
    case absent he => cases he.symm.trans hp
    case member value hm ho =>
      rw [hp] at ho
      cases ho
      case some ho => exact .pattern (ho ▸ hm)
  case maxLength k hk =>
    cases h.maxLength
    case absent he => cases he.symm.trans hk
    case member value hm ho =>
      rw [hk] at ho
      cases ho
      case some ho => exact .maxLength hm ho

theorem RulesDecl.Written.has_of_writes {d : RulesDecl} (h : d.Written t)
    (hr : RulesDecl.Writes t rule) : d.Has rule := by
  have hn := h.shape.nodup (by decide)
  cases hr
  case required hm hf =>
    cases h.required.of_mem hn hm
    case intro hr =>
      obtain ⟨_, hb, ⟨⟩⟩ := exists_of_mem_of_forall₂ hr hf
      exact .required hb
  case field hm hc =>
    obtain ⟨_, ha, ⟨⟩⟩ := (h.fields.of_mem hn hm).exists_mem hc
    exact .field ha
  case pattern hm =>
    obtain ⟨_, ⟨⟩, hp⟩ := (h.pattern.of_mem hn hm).eq_null_or.resolve_left nofun
    exact .pattern hp
  case maxLength value k hm hk =>
    have hnull : value ≠ .null := by
      obtain ⟨n, rfl, _⟩ := hk
      exact nofun
    obtain ⟨_, hs, hp⟩ := (h.maxLength.of_mem hn hm).eq_null_or.resolve_left hnull
    exact .maxLength (hs.unique hk ▸ hp)

theorem Source.Written.writes_iff {s : Source} (h : s.Written t) :
    Source.Writes t entry rule ↔ ∃ d, (entry, d) ∈ s.entries ∧ d.Has rule := by
  constructor
  case mp =>
    intro ⟨hm, hc, hr⟩
    have hmap := h.entries.of_mem (h.shape.nodup (by decide)) hm
    obtain ⟨d, hd, hw⟩ := hmap.exists_mem hc
    exact ⟨d, hd, hw.has_of_writes hr⟩
  case mpr =>
    intro ⟨d, hd, hr⟩
    cases h.entries
    case absent he => cases he ▸ hd
    case member value hm hmap =>
      obtain ⟨es, _, rfl, _⟩ := hmap.exists_keyed
      obtain ⟨rules, hc, hw⟩ := hmap.exists_counts hd
      exact .intro hm hc (hw.writes_of_has hr)

end Reading

section Enforcing

variable {π : Type} [PatternLanguage π] {code : String} {n : Declared π}

theorem Compiled.exists_pattern {d : RulesDecl} {r : Rules π} {rule : Rule} (c : Compiled d r)
    (hr : d.Has rule) {p : String} (hp : rule.pattern? = some p) :
    ∃ q : π, PatternLanguage.compile p = .ok q := by
  cases hr
  case required  => cases hp
  case maxLength => cases hp
  case field hf =>
    cases hp
    obtain ⟨f, _, _, hc⟩ := exists_of_mem_of_forall₂ c.fields hf
    exact ⟨f.2, hc⟩
  case pattern hd =>
    cases hp
    have hrel := c.pattern
    generalize r.pattern = q at hrel
    rw [hd] at hrel
    cases hrel
    case some hc => exact ⟨_, hc⟩

theorem Loaded.validate_eq_ok_iff {s : Source} (l : Loaded s n)
    (hn : (s.entries.map Prod.fst).Nodup) {entry : EntryType} {p : Payload} :
    n.validate entry p = .ok () ↔
      p.schema = entry.format ∧ ∀ d, (entry.name, d) ∈ s.entries → d.Admits π p := by
  by_cases hp : p.schema = entry.format
  case neg =>
    rw [validate, ensureSchema, if_neg hp]
    constructor
    case mp  => intro h; cases h
    case mpr => intro h; exact absurd h.1 hp
  case pos =>
    simp only [← Json.findMember?_eq_some_iff hn, hp, true_and]
    cases hd : Json.findMember? entry.name s.entries
    case none => simp [l.validate_of_undeclared hp hd]
    case some d =>
      obtain ⟨r, c, hv⟩ := l.validate_of_declared hp hd
      rw [hv, c.check_eq_ok_iff]
      simp

-- What is written is enforced, as far as it counts, and nothing else.
theorem load_enforces_counting_rules (h : load code = .ok n) :
    (∃ t : Tree, t.HasText code) ∧ ∀ t : Tree, t.HasText code →
      (∀ entry rule, Source.Writes t entry rule → ∀ p, rule.pattern? = some p →
        ∃ q : π, PatternLanguage.compile p = .ok q) ∧
      ∀ (entry : EntryType) (p : Payload), n.validate entry p = .ok () ↔
        p.schema = entry.format ∧ ∀ rule, Source.Writes t entry.name rule → ¬rule.BrokenBy π p := by
  obtain ⟨s, hs, l⟩ := load_eq_ok h
  refine ⟨Source.exists_hasText hs, fun t ht => ?_⟩
  have hw := Source.written_of_ofText ht hs
  simp only [hw.writes_iff]
  refine ⟨?compiled, fun entry p => ?enforced⟩
  case compiled =>
    intro entry rule ⟨d, hd, hr⟩ p hp
    obtain ⟨_, _, _, c⟩ := exists_of_mem_of_forall₂ l.rules hd
    exact c.exists_pattern hr hp
  case enforced =>
    rw [l.validate_eq_ok_iff (Source.sorted_of_ofText hs).entries.nodup]
    have hadmits {d} (hd : (entry.name, d) ∈ s.entries) :
        d.Admits π p ↔ ∀ rule, d.Has rule → ¬rule.BrokenBy π p := by
      obtain ⟨_, _, _, c⟩ := exists_of_mem_of_forall₂ l.rules hd
      exact RulesDecl.admits_iff c.unmixed
    refine and_congr_right fun _ => ⟨fun h rule ⟨d, hd, hr⟩ => ?_, fun h d hd => ?_⟩
    · exact (hadmits hd).1 (h d hd) rule hr
    · exact (hadmits hd).2 fun rule hr => h rule ⟨d, hd, hr⟩

-- A source with two rule sets for one entry type.
def repeatedEntryTypeCode : String :=
  "\x7b\"entries\":\x7b\"a\":\x7b\"pattern\":\"(\"\x7d,\"a\":\x7b\"max_length\":1\x7d\x7d\x7d"

def repeatedEntryType : Tree :=
  .object [("entries", .object [
    ("a", .object [("pattern", .string "(")]),
    ("a", .object [("max_length", .number ⟨false, [1], none, none⟩)])])]

theorem hasText_repeatedEntryType : repeatedEntryType.HasText repeatedEntryTypeCode := by
  refine ⟨_, _, .none, ?_, .none⟩
  simp only [repeatedEntryTypeCode, String.toList]
  have first {rest : List Char} : Tree.Begins (.object [("pattern", .string "(")]) _ rest :=
    .object .none (.last
      (.intro (quoted_plain (s := ['p', 'a', 't', 't', 'e', 'r', 'n']) (by simp)) .none .none
        (.string (quoted_plain (s := ['(']) (by simp)))) .none)
  have one {rest : List Char} : Tree.Begins (.number ⟨false, [1], none, none⟩) ('1' :: rest) rest :=
    digit_plain '1' rfl rfl (by decide)
  have second {rest : List Char} :
      Tree.Begins (.object [("max_length", .number ⟨false, [1], none, none⟩)]) _ rest :=
    .object .none (.last
      (.intro (quoted_plain (s := ['m', 'a', 'x', '_', 'l', 'e', 'n', 'g', 't', 'h']) (by simp))
        .none .none one) .none)
  exact .object .none (.last (.intro
    (quoted_plain (s := ['e', 'n', 't', 'r', 'i', 'e', 's']) (by simp)) .none .none
    (.object .none
      (.cons (.intro (quoted_plain (s := ['a']) (by simp)) .none .none first) .none .none
        (.last (.intro (quoted_plain (s := ['a']) (by simp)) .none .none second) .none)))) .none)

theorem writes_repeatedEntryType_iff {rule : Rule} :
    Source.Writes repeatedEntryType "a" rule ↔ rule = .maxLength 1 := by
  have hsize : Tree.IsSize (.number ⟨false, [1], none, none⟩) 1 := ⟨_, rfl, by decide⟩
  constructor
  case mp =>
    intro ⟨h, hc, hr⟩
    simp only [repeatedEntryType, Tree.fields, List.mem_singleton] at h
    cases h
    cases hc
    case here h => simp at h
    case later hc =>
      cases hc
      case later hc => cases hc
      case here =>
        cases hr
        case maxLength hm hk =>
          cases List.mem_singleton.1 hm
          exact congrArg Rule.maxLength (hk.unique hsize)
        all_goals simp [Tree.fields] at *
  case mpr =>
    rintro rfl
    exact .intro (.head _) (.later (.here (by simp))) (.maxLength (.head _) hsize)

-- The second rule set counts, and the first one does not, although its pattern does not even compile.
theorem load_enforces_repeated_entry_type : ∃ n : Declared Pattern,
    load repeatedEntryTypeCode = .ok n ∧
      (¬∃ q : Pattern, PatternLanguage.compile "(" = .ok q) ∧
      n.validate ⟨"a", .string⟩ (.text "c") = .ok () ∧
      n.validate ⟨"a", .string⟩ (.text "bb") ≠ .ok () := by
  have hs : Source.ofText repeatedEntryTypeCode =
      .ok ⟨[], [("a", ⟨[], [], none, some 1⟩)]⟩ := by cbv
  obtain ⟨n, hn⟩ := exists_load (π := Pattern) hs (by decide +kernel)
  obtain ⟨_, hv⟩ := (load_enforces_counting_rules hn).2 _ hasText_repeatedEntryType
  have hp : ¬∃ q : Pattern, PatternLanguage.compile "(" = .ok q :=
    mt patternDefects_eq_nil_iff.2 (show patternDefects Pattern "a" "(" ≠ [] by decide +kernel)
  refine ⟨n, hn, hp, ?_, ?_⟩
  all_goals
    simp only [hv, ne_eq, writes_repeatedEntryType_iff, forall_eq, Rule.BrokenBy]
    decide

end Enforcing
end ChainHost.Declared
