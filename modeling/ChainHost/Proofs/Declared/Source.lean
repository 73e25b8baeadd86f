import ChainHost.Declared
import ChainHost.Proofs.Json.Record
import ChainHost.Proofs.Text.ByteOrder

namespace ChainHost.Declared

section Order

theorem RulesDecl.keeps_sortedKeys :
    RulesDecl.layout.Keeps fun rules => Json.SortedKeys rules.fields := by
  intro f hf room node rules rules' hd h
  simp only [RulesDecl.layout, List.mem_cons, List.not_mem_nil, or_false] at hf
  rcases hf with rfl | rfl | rfl | rfl
  all_goals
    obtain ⟨value, hv, h⟩ := bind_eq_ok_iff.1 h
    cases h
  case inr.inl => exact (Json.of_mapOf_eq_ok hv).1
  all_goals exact hd

theorem RulesDecl.sortedKeys_of_decode {room : Nat} {node : Json.Node} {rules : RulesDecl}
    (h : RulesDecl.layout.decode room node = .ok rules) : Json.SortedKeys rules.fields := by
  obtain ⟨draft, hd, hf⟩ :=
    Json.Layout.exists_draft_of_decode keeps_sortedKeys List.Pairwise.nil h
  cases hf
  exact hd

-- The rules stand in the order of the entry types, and those for fields in the order of the fields.
structure Source.Sorted (s : Source) : Prop where
  entries : Json.SortedKeys s.entries
  fields  : ∀ e ∈ s.entries, Json.SortedKeys e.2.fields

namespace Source

theorem keeps_sorted : Source.layout.Keeps Sorted := by
  intro f hf room node source source' hd h
  simp only [Source.layout, List.mem_cons, List.not_mem_nil, or_false] at hf
  rcases hf with rfl | rfl
  all_goals
    obtain ⟨value, hv, h⟩ := bind_eq_ok_iff.1 h
    cases h
  case inl => exact ⟨hd.entries, hd.fields⟩
  case inr =>
    obtain ⟨hs, hm⟩ := Json.of_mapOf_eq_ok hv
    refine ⟨hs, fun e he => ?_⟩
    obtain ⟨room, node, hn⟩ := hm e he
    exact RulesDecl.sortedKeys_of_decode hn

theorem sorted_of_ofText {text : String} {s : Source} (h : ofText text = .ok s) : s.Sorted := by
  obtain ⟨s', hs, h⟩ := bind_eq_ok_iff.1 h
  have hempty : empty.Sorted := ⟨List.Pairwise.nil, fun _ he => absurd he List.not_mem_nil⟩
  obtain ⟨draft, hd, hf⟩ := Json.Layout.exists_draft_of_decode keeps_sorted hempty hs
  cases hf
  split at h <;> cases h
  exact hd

end Source
end Order

section Defects

def FunctionDecl.interface (d : FunctionDecl) : Interface :=
  ⟨d.name, d.schema⟩

-- A constant counts only where no error is declared.
def FunctionDecl.hasBadConstant (d : FunctionDecl) : Bool :=
  d.schema = .string && d.error.isNone && d.returns.any fun value => value.string?.isNone

-- What is wrong with a function that stands behind functions of the given names.
def FunctionDecl.defects (earlier : List String) (d : FunctionDecl) : List Failure :=
  (if d.hasBadConstant then [.load (.constant d.name)] else []) ++
    (if d.name ∈ earlier then [.alreadyExposed d.name] else [])

def functionDefects (earlier : List String) : List FunctionDecl → List Failure
  | []      => []
  | d :: ds => d.defects earlier ++ functionDefects (earlier ++ [d.name]) ds

-- The patterns of a rule set: those of its fields, then the one for texts.
def RulesDecl.patterns (d : RulesDecl) : List String :=
  d.fields.map Prod.snd ++ d.pattern.toList

variable (π : Type) [PatternLanguage π]

def patternDefects (entry text : String) : List Failure :=
  match PatternLanguage.compile (π := π) text with
  | .ok _          => []
  | .error message => [.load (.pattern entry message)]

def RulesDecl.defects (entry : String) (d : RulesDecl) : List Failure :=
  d.patterns.flatMap (patternDefects π entry) ++
    (if d.hasTextRules && d.hasObjectRules then [.load (.mixed entry)] else [])

-- Everything that is wrong with a source, in the order in which it is reported.
def Source.defects (s : Source) : List Failure :=
  functionDefects [] s.functions ++ s.entries.flatMap fun e => e.2.defects π e.1

-- A source that makes a nucleus.
structure Source.Acceptable (s : Source) : Prop where
  distinct  : (s.functions.map FunctionDecl.name).Nodup
  constants : ∀ d ∈ s.functions, d.schema = .string → d.error = none →
    d.returns = none ∨ ∃ text, d.returns = some (.string text)
  fields    : ∀ e ∈ s.entries, ∀ f ∈ e.2.fields, ∃ p : π, PatternLanguage.compile f.2 = .ok p
  pattern   : ∀ e ∈ s.entries, ∀ text, e.2.pattern = some text →
    ∃ p : π, PatternLanguage.compile text = .ok p
  unmixed   : ∀ e ∈ s.entries, ¬((e.2.pattern ≠ none ∨ e.2.maxLength ≠ none) ∧
    (e.2.required ≠ [] ∨ e.2.fields ≠ []))

variable {π}

theorem RulesDecl.hasTextRules_iff {d : RulesDecl} :
    d.hasTextRules ↔ d.pattern ≠ none ∨ d.maxLength ≠ none := by
  simp [hasTextRules, Option.isSome_iff_ne_none]

theorem RulesDecl.hasObjectRules_iff {d : RulesDecl} :
    d.hasObjectRules ↔ d.required ≠ [] ∨ d.fields ≠ [] := by
  simp [hasObjectRules]

theorem patternDefects_eq_nil_iff {entry text : String} :
    patternDefects π entry text = [] ↔ ∃ p : π, PatternLanguage.compile text = .ok p := by
  unfold patternDefects
  cases PatternLanguage.compile (π := π) text <;> simp

-- A function is reported for its constant or for its name.
theorem mem_functionDefects {earlier : List String} {ds : List FunctionDecl} {e : Failure}
    (h : e ∈ functionDefects earlier ds) :
    (∃ cause, e = .load cause) ∨ ∃ name, e = .alreadyExposed name := by
  induction ds generalizing earlier
  case nil => cases h
  case cons d ds hi =>
    rcases List.mem_append.1 h with h | h
    case inr => exact hi h
    case inl =>
      simp only [FunctionDecl.defects, List.mem_append, List.mem_ite_nil_right,
        List.mem_singleton] at h
      rcases h with ⟨-, rfl⟩ | ⟨-, rfl⟩
      · exact .inl ⟨_, rfl⟩
      · exact .inr ⟨_, rfl⟩

theorem mem_patternDefects {entry text : String} {e : Failure}
    (h : e ∈ patternDefects π entry text) : ∃ cause, e = .load cause := by
  unfold patternDefects at h
  split at h
  case h_1 => cases h
  case h_2 =>
    obtain rfl := List.mem_singleton.1 h
    exact ⟨_, rfl⟩

theorem RulesDecl.mem_defects {entry : String} {d : RulesDecl} {e : Failure}
    (h : e ∈ d.defects π entry) : ∃ cause, e = .load cause := by
  simp only [defects, List.mem_append, List.mem_flatMap, List.mem_ite_nil_right,
    List.mem_singleton] at h
  rcases h with ⟨text, -, h⟩ | ⟨-, rfl⟩
  · exact mem_patternDefects h
  · exact ⟨_, rfl⟩

theorem FunctionDecl.hasBadConstant_eq_false_iff {d : FunctionDecl} :
    d.hasBadConstant = false ↔ (d.schema = .string → d.error = none →
      d.returns = none ∨ ∃ text, d.returns = some (.string text)) := by
  obtain ⟨name, schema, returns, error⟩ := d
  cases schema <;> cases error <;> rcases returns with _ | value <;> try cases value
  all_goals simp [hasBadConstant, Json.Value.string?]

theorem functionDefects_eq_nil_iff {earlier : List String} {ds : List FunctionDecl} :
    functionDefects earlier ds = [] ↔ (∀ d ∈ ds, d.hasBadConstant = false) ∧
      (ds.map FunctionDecl.name).Nodup ∧ ∀ d ∈ ds, d.name ∉ earlier := by
  induction ds generalizing earlier
  case nil => simp [functionDefects]
  case cons d ds hi =>
    have hd : d.defects earlier = [] ↔ d.hasBadConstant = false ∧ d.name ∉ earlier := by
      simp [FunctionDecl.defects]
    rw [functionDefects, List.append_eq_nil_iff, hd, hi]
    simp only [List.map_cons, List.nodup_cons, List.mem_cons, List.mem_append, List.mem_map]
    grind

theorem RulesDecl.defects_eq_nil_iff {entry : String} {d : RulesDecl} :
    d.defects π entry = [] ↔
      (∀ text ∈ d.patterns, ∃ p : π, PatternLanguage.compile text = .ok p) ∧
        ¬(d.hasTextRules ∧ d.hasObjectRules) := by
  simp [defects, patternDefects_eq_nil_iff]

theorem Source.defects_eq_nil_iff {s : Source} : s.defects π = [] ↔ s.Acceptable π := by
  simp only [defects, List.append_eq_nil_iff, functionDefects_eq_nil_iff, List.flatMap_eq_nil_iff,
    RulesDecl.defects_eq_nil_iff, FunctionDecl.hasBadConstant_eq_false_iff,
    RulesDecl.hasTextRules_iff, RulesDecl.hasObjectRules_iff]
  constructor
  · rintro ⟨⟨hc, hn, -⟩, he⟩
    exact {
      distinct  := hn
      constants := hc
      fields    := fun e h f hf => (he e h).1 f.2 <|
        List.mem_append_left _ (List.mem_map_of_mem hf)
      pattern   := fun e h text ht => (he e h).1 text <|
        List.mem_append_right _ (Option.mem_toList.2 ht)
      unmixed   := fun e h => (he e h).2 }
  · intro h
    refine ⟨⟨h.constants, h.distinct, fun _ _ => List.not_mem_nil⟩, fun e he => ⟨?_, h.unmixed e he⟩⟩
    intro text ht
    rcases List.mem_append.1 ht with ht | ht
    · obtain ⟨f, hf, rfl⟩ := List.mem_map.1 ht
      exact h.fields e he f hf
    · exact h.pattern e he text (Option.mem_toList.1 ht)

end Defects
end ChainHost.Declared
