import ChainHost.Proofs.Declared.Load

namespace ChainHost.Declared

-- A constant on the wire: a function of bare text gives bare text.
def wireText : Schema → Json.Value → String
  | .string, .string text => text
  | _, value              => value.text

-- Params as they go back on the wire, if they can be read.
def wireParams : Schema → String → Except Failure String
  | .string, raw => .ok raw
  | .json, raw   =>
    match Json.Value.ofText raw with
    | .ok value    => .ok value.text
    | .error fault => .error (.undecodable (fault.message raw))

-- Params have to be readable whatever becomes of them. Then an error goes before a constant, and the
-- params come back where there is neither.
def FunctionDecl.wireAnswer (d : FunctionDecl) (raw : String) : Except Failure String :=
  match wireParams d.schema raw, d.error, d.returns with
  | .error e, _, _               => .error e
  | .ok _, some message, _       => .error (.failed message)
  | .ok _, none, some value      => .ok (wireText d.schema value)
  | .ok params, none, none       => .ok params

-- What a function does with params of its schema.
def Behavior.answer (p : Payload) : Behavior → Except Failure Payload
  | constant value => .ok value
  | echo           => .ok p
  | fail message   => .error (.failed message)

section Behavior

variable {d : FunctionDecl} {behavior : Behavior} {p : Payload}

theorem wireParams_eq (schema : Schema) (raw : String) :
    wireParams schema raw = (Payload.decode schema raw).map Payload.encode := by
  cases schema
  case string => rfl
  case json =>
    simp only [wireParams, Payload.decode]
    cases Json.Value.ofText raw <;> rfl

theorem Behavior.encode_answer (h : ofDecl d = .ok behavior) {raw : String}
    (hp : Payload.decode d.schema raw = .ok p) :
    (behavior.answer p).map Payload.encode = d.wireAnswer raw := by
  have hw : wireParams d.schema raw = .ok p.encode := by rw [wireParams_eq, hp]; rfl
  rw [FunctionDecl.wireAnswer, hw]
  unfold ofDecl at h
  split at h <;> cases h
  all_goals simp_all [answer, wireText, Except.map, Payload.encode]

theorem Behavior.error_of_answer {e : Failure} (h : behavior.answer p = .error e) :
    ∃ message, e = .failed message := by
  cases behavior <;> cases h
  exact ⟨_, rfl⟩

theorem Behavior.schema_of_answer (h : ofDecl d = .ok behavior) (hp : p.schema = d.schema)
    {result : Payload} (hr : behavior.answer p = .ok result) : result.schema = d.schema := by
  unfold ofDecl at h
  split at h <;> cases h
  all_goals cases hr
  all_goals simp_all

end Behavior

namespace Loaded

variable {π : Type} [PatternLanguage π] {s : Source} {n : Declared π} {d : FunctionDecl}

theorem interfaces_eq (h : Loaded s n) :
    Nucleus.interfaces n = s.functions.map FunctionDecl.interface :=
  h.interfaces

theorem nodup_names (h : Loaded s n) : (s.functions.map FunctionDecl.name).Nodup := by
  have hn := n.catalog.nodup
  rwa [h.interfaces, List.map_map] at hn

theorem schemaOf_of_mem (h : Loaded s n) (hd : d ∈ s.functions) :
    Nucleus.schemaOf n d.name = .ok d.schema := by
  have hm : d.interface ∈ Nucleus.interfaces n := h.interfaces_eq ▸ List.mem_map_of_mem hd
  have hs := (schemaOf?_eq_some_iff n.catalog.nodup).2 hm
  rw [Nucleus.schemaOf, show schemaOf? (Nucleus.interfaces n) d.name = some d.schema from hs]

theorem schemaOf_of_not_mem (h : Loaded s n) {name : String}
    (hn : name ∉ s.functions.map FunctionDecl.name) :
    Nucleus.schemaOf n name = .error (.notExposed name) := by
  have hm : name ∉ (Nucleus.interfaces n).map Interface.name := by
    rw [h.interfaces_eq, List.map_map]
    exact hn
  rw [Nucleus.schemaOf, schemaOf?_eq_none_iff.2 hm]

theorem call_of_mem (h : Loaded s n) (hd : d ∈ s.functions) :
    ∃ behavior, Behavior.ofDecl d = .ok behavior ∧ ∀ p, n.call d.name p =
      if p.schema = d.schema then behavior.answer p
      else .error (.schemaMismatch d.name d.schema p.schema) := by
  obtain ⟨behavior, hb, hf⟩ := h.declared d hd
  refine ⟨behavior, hb, fun p => ?_⟩
  simp only [call, hf, ensureSchema]
  split
  case isTrue  => cases behavior <;> rfl
  case isFalse => rfl

theorem call_of_not_mem (h : Loaded s n) {name : String}
    (hn : name ∉ s.functions.map FunctionDecl.name) (p : Payload) :
    n.call name p = .error (.notExposed name) := by
  simp only [call, h.undeclared name hn]

-- Every name is declared by a function or by none.
theorem mem_or_not_mem (s : Source) (name : String) :
    (∃ d ∈ s.functions, d.name = name) ∨ name ∉ s.functions.map FunctionDecl.name := by
  simpa using Classical.em (name ∈ s.functions.map FunctionDecl.name)

theorem callEncoded_of_mem (h : Loaded s n) (hd : d ∈ s.functions) (raw : String) :
    Nucleus.callEncoded n d.name raw = (d.wireAnswer raw, n) := by
  obtain ⟨behavior, hb, hcall⟩ := h.call_of_mem hd
  simp only [Nucleus.callEncoded, h.schemaOf_of_mem hd]
  cases hp : Payload.decode d.schema raw
  case error e =>
    have hw : wireParams d.schema raw = .error e := by rw [wireParams_eq, hp]; rfl
    simp only [FunctionDecl.wireAnswer, hw]
  case ok p =>
    have hc : Nucleus.call n d.name p = (behavior.answer p, n) := by
      simp only [Nucleus.call, hcall, Payload.schema_of_decode hp, if_true]
    simp only [hc, Behavior.encode_answer hb hp]

-- A name is listed exactly if the functions hold it, with the schema that they hold.
theorem mem_interfaces_iff (h : Loaded s n) {name : String} {schema : Schema} :
    ⟨name, schema⟩ ∈ Nucleus.interfaces n ↔
      ∃ f, Json.findMember? name n.functions = some f ∧ f.schema = schema := by
  rw [h.interfaces_eq, List.mem_map]
  constructor
  · rintro ⟨d, hd, ⟨⟩⟩
    obtain ⟨behavior, -, hf⟩ := h.declared d hd
    exact ⟨_, hf, rfl⟩
  · rintro ⟨f, hf, rfl⟩
    rcases mem_or_not_mem s name with ⟨d, hd, rfl⟩ | hn
    · obtain ⟨behavior, -, hf'⟩ := h.declared d hd
      cases hf.symm.trans hf'
      exact ⟨d, hd, rfl⟩
    · cases hf.symm.trans (h.undeclared name hn)

end Loaded

section Answers

variable {π : Type} [PatternLanguage π] {code : String} {n : Declared π}

theorem FunctionDecl.wireAnswer_error {d : FunctionDecl} {raw : String} {e : Failure}
    (h : d.wireAnswer raw = .error e) : (∃ m, e = .undecodable m) ∨ ∃ m, e = .failed m := by
  unfold wireAnswer at h
  split at h <;> cases h
  case h_1 hw =>
    unfold wireParams at hw
    split at hw
    case h_1 => cases hw
    case h_2 => split at hw <;> cases hw; exact .inl ⟨_, rfl⟩
  case h_2 => exact .inr ⟨_, rfl⟩

-- A call from the wire gets to a function with params of its schema, or not at all.
theorem Loaded.callEncoded_error {s : Source} (h : Loaded s n) {name raw : String} {e : Failure}
    (he : (Nucleus.callEncoded n name raw).1 = .error e) :
    e = .notExposed name ∨ (∃ m, e = .undecodable m) ∨ ∃ m, e = .failed m := by
  rcases mem_or_not_mem s name with ⟨d, hd, rfl⟩ | hn
  case inl =>
    rw [h.callEncoded_of_mem hd] at he
    exact .inr (FunctionDecl.wireAnswer_error he)
  case inr =>
    rw [Nucleus.callEncoded_of_notExposed (h.schemaOf_of_not_mem hn)] at he
    cases he
    exact .inl rfl

-- A call from the wire is answered as the source declares. It fails because the name, the payload or
-- the function does, and for no other reason.
theorem callEncoded_answers_as_declared (h : load code = .ok n) :
    ∃ s, Source.ofText code = .ok s ∧ (s.functions.map FunctionDecl.name).Nodup ∧
      (∀ d ∈ s.functions, d.schema = .string → d.error = none →
        d.returns = none ∨ ∃ text, d.returns = some (.string text)) ∧
      (∀ name, name ∉ s.functions.map FunctionDecl.name → ∀ raw,
        Nucleus.callEncoded n name raw = (.error (.notExposed name), n)) ∧
      (∀ d ∈ s.functions, ∀ raw, Nucleus.callEncoded n d.name raw = (d.wireAnswer raw, n)) ∧
      (∀ name raw e, (Nucleus.callEncoded n name raw).1 = .error e →
        e = .notExposed name ∨ (∃ m, e = .undecodable m) ∨ ∃ m, e = .failed m) ∧
      ∀ name p result, (Nucleus.call n name p).1 = .ok result →
        ∃ d ∈ s.functions, d.name = name ∧ result.schema = d.schema := by
  obtain ⟨s, hs, l⟩ := load_eq_ok h
  have hmissing (name : String) (hn : name ∉ s.functions.map FunctionDecl.name) (raw : String) :=
    Nucleus.callEncoded_of_notExposed (l.schemaOf_of_not_mem hn) raw
  refine ⟨s, hs, l.nodup_names, ?constants, hmissing, fun d hd => l.callEncoded_of_mem hd, ?_, ?_⟩
  case constants =>
    intro d hd
    obtain ⟨behavior, hb, -⟩ := l.declared d hd
    have hnil := (Behavior.ofDecl_reports d).eq_nil_of_ok hb
    exact FunctionDecl.hasBadConstant_eq_false_iff.1 (by simpa using hnil)
  · intro name raw e he
    rcases Loaded.mem_or_not_mem s name with ⟨d, hd, rfl⟩ | hn
    · rw [l.callEncoded_of_mem hd] at he
      exact .inr (FunctionDecl.wireAnswer_error he)
    · rw [hmissing name hn] at he
      exact .inl (Except.error.inj he).symm
  · intro name p result hr
    rcases Loaded.mem_or_not_mem s name with ⟨d, hd, rfl⟩ | hn
    · obtain ⟨behavior, hb, hc⟩ := l.call_of_mem hd
      simp only [Nucleus.call, hc] at hr
      split at hr
      case isTrue hp => exact ⟨d, hd, rfl, Behavior.schema_of_answer hb hp hr⟩
      case isFalse   => cases hr
    · simp only [Nucleus.call, l.call_of_not_mem hn] at hr
      cases hr

-- A constant and a failure, then a constant and an echo of values with blanks between their parts.
def answeringCode : String :=
  "[[[\"f\",\"string\",\"a\"],[\"g\",\"json\",1,\"no\"]," ++
    "[\"c\",\"json\",\x7b\"b\": [1, 2]\x7d],[\"e\",\"json\"]]]"

theorem callEncoded_fails_on_unreadable_params :
    ∃ n : Declared Pattern, load answeringCode = .ok n ∧
      Nucleus.callEncoded n "f" "[" = (.ok "a", n) ∧
      Nucleus.callEncoded n "g" "[]" = (.error (.failed "no"), n) ∧
      Nucleus.callEncoded n "g" "[" =
        (.error (.undecodable "EOF while parsing a list at line 1 column 1"), n) ∧
      Nucleus.callEncoded n "c" "null" = (.ok "\x7b\"b\":[1,2]\x7d", n) ∧
      Nucleus.callEncoded n "e" " \x7b \"b\" : [ 2, 3 ], \"a\" : \"\" \x7d " =
        (.ok "\x7b\"a\":\"\",\"b\":[2,3]\x7d", n) := by
  have hs : Source.ofText answeringCode =
      .ok ⟨[⟨"f", .string, some (.string "a"), none⟩,
        ⟨"g", .json, some (.number (.integer 1)), some "no"⟩,
        ⟨"c", .json, some (.object [("b", .array [.number (.integer 1), .number (.integer 2)])]),
          none⟩,
        ⟨"e", .json, none, none⟩], []⟩ := by cbv
  obtain ⟨n, hn⟩ := exists_load (π := Pattern) hs (by decide)
  obtain ⟨s, hs', -, -, -, hcall, -⟩ := callEncoded_answers_as_declared hn
  cases hs.symm.trans hs'
  have hg := hcall _ (.tail _ (.head _))
  have he : Json.Value.ofText " \x7b \"b\" : [ 2, 3 ], \"a\" : \"\" \x7d " =
      .ok (.object [("a", .string ""), ("b", .array [.number (.integer 2), .number (.integer 3)])]) := by
    cbv
  have hnull : Json.Value.ofText "null" = .ok .null := by cbv
  refine ⟨n, hn, (hcall _ (.head _) "[").trans ?_, (hg "[]").trans ?_, (hg "[").trans ?_,
    (hcall _ (.tail _ (.tail _ (.head _))) "null").trans ?constant,
    (hcall _ (.tail _ (.tail _ (.tail _ (.head _)))) _).trans ?echo⟩
  case constant =>
    simp only [FunctionDecl.wireAnswer, wireParams, hnull]
    rfl
  case echo =>
    simp only [FunctionDecl.wireAnswer, wireParams, he]
    rfl
  all_goals rfl

-- What is listed can be called with its schema, and nothing else can.
theorem call_agrees_with_interfaces (h : load code = .ok n) :
    ∃ s, Source.ofText code = .ok s ∧
      Nucleus.interfaces n = s.functions.map (fun d => ⟨d.name, d.schema⟩) ∧
      ((Nucleus.interfaces n).map Interface.name).Nodup ∧
      (∀ name schema, ⟨name, schema⟩ ∈ Nucleus.interfaces n ↔
        ∃ f, Json.findMember? name n.functions = some f ∧ f.schema = schema) ∧
      ∀ name p,
        ((Nucleus.call n name p).1 = .error (.notExposed name) ↔
          Nucleus.schemaOf n name = .error (.notExposed name)) ∧
        ∀ schema, Nucleus.schemaOf n name = .ok schema →
          ((Nucleus.call n name p).1 = .error (.schemaMismatch name schema p.schema) ↔
            p.schema ≠ schema) := by
  obtain ⟨s, hs, l⟩ := load_eq_ok h
  refine ⟨s, hs, l.interfaces_eq, n.catalog.nodup, fun _ _ => l.mem_interfaces_iff, fun name p => ?_⟩
  simp only [Nucleus.call]
  rcases Loaded.mem_or_not_mem s name with ⟨d, hd, rfl⟩ | hn
  · obtain ⟨behavior, -, hc⟩ := l.call_of_mem hd
    rw [hc, l.schemaOf_of_mem hd]
    refine ⟨⟨fun hf => ?_, nofun⟩, ?_⟩
    · split at hf
      case isTrue  => exact nomatch Behavior.error_of_answer hf
      case isFalse => cases hf
    · rintro _ ⟨⟩
      split
      case isTrue hp  => exact ⟨fun hf => (nomatch Behavior.error_of_answer hf), absurd hp⟩
      case isFalse hp => exact ⟨fun _ => hp, fun _ => rfl⟩
  · rw [l.call_of_not_mem hn, l.schemaOf_of_not_mem hn]
    simp

theorem call_refuses_text_for_json :
    ∃ n : Declared Pattern, load "[[[\"g\",\"json\",1,\"no\"]]]" = .ok n ∧
      (Nucleus.call n "g" (.text "")).1 = .error (.schemaMismatch "g" .json .string) := by
  have hs : Source.ofText "[[[\"g\",\"json\",1,\"no\"]]]" =
      .ok ⟨[⟨"g", .json, some (.number (.integer 1)), some "no"⟩], []⟩ := by cbv
  obtain ⟨n, hn⟩ := exists_load (π := Pattern) hs (by decide)
  obtain ⟨s, hs', hi, -, -, hcall⟩ := call_agrees_with_interfaces hn
  cases hs.symm.trans hs'
  have hg : Nucleus.schemaOf n "g" = .ok .json := by rw [Nucleus.schemaOf, hi]; rfl
  exact ⟨n, hn, ((hcall "g" (.text "")).2 .json hg).2 (by decide)⟩

end Answers
end ChainHost.Declared
