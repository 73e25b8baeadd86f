import ChainHost.Proofs.Declared.Load

namespace ChainHost.Declared

section Rules

variable (π : Type) [PatternLanguage π]

-- Whether a text matches a pattern that is not compiled yet.
def matchesText (pattern text : String) : Bool :=
  match PatternLanguage.compile (π := π) pattern with
  | .ok p    => PatternLanguage.isMatch p text
  | .error _ => false

-- A field that is null counts as missing.
def isMissing (members : List (String × Json.Value)) (field : String) : Bool :=
  (Json.findMember? field members).all Json.Value.isNull

-- A field that is there has to be a text that matches, also if it is null.
def isMismatch (members : List (String × Json.Value)) (f : String × String) : Bool :=
  (Json.findMember? f.1 members).any fun value => !value.string?.any (matchesText π f.2)

def RulesDecl.fieldViolations (d : RulesDecl) : Json.Value → List String
  | .object members =>
    (d.required.flatMap fun field => if isMissing members field then ["required:" ++ field] else []) ++
      d.fields.flatMap fun f => if isMismatch π members f then ["pattern:" ++ f.1] else []
  | _ => ["object"]

-- The rules that a payload breaks, in the order in which they are reported.
def RulesDecl.violations (d : RulesDecl) : Payload → List String
  | .text text =>
    (if d.hasObjectRules then ["object"] else []) ++
      ((if d.maxLength.any (· < text.length) then ["max_length"] else []) ++
        (if d.pattern.any fun p => !matchesText π p text then ["pattern"] else []))
  | .json value =>
    (if d.hasTextRules then ["string"] else []) ++
      (if d.hasObjectRules then d.fieldViolations π value else [])

-- Without rules everything is admitted. Rules for texts admit no JSON value, and those for objects
-- admit nothing else.
inductive RulesDecl.Admits (d : RulesDecl) : Payload → Prop
  | unruled (p : Payload) : ¬d.hasTextRules → ¬d.hasObjectRules → Admits d p
  | text (text : String) : d.hasTextRules → (∀ k, d.maxLength = some k → text.length ≤ k) →
    (∀ p, d.pattern = some p → matchesText π p text) → Admits d (.text text)
  | object (members : List (String × Json.Value)) : d.hasObjectRules →
    (∀ field ∈ d.required, ∃ value, Json.findMember? field members = some value ∧ value ≠ .null) →
    (∀ f ∈ d.fields, ∀ value, Json.findMember? f.1 members = some value →
      ∃ text, value = .string text ∧ matchesText π f.2 text) → Admits d (.json (.object members))

-- What the names of broken rules mean.
inductive RulesDecl.Violated (d : RulesDecl) : Payload → String → Prop
  | string (value : Json.Value) : d.hasTextRules → Violated d (.json value) "string"
  | object (p : Payload) : d.hasObjectRules → (∀ members, p ≠ .json (.object members)) →
    Violated d p "object"
  | maxLength (text : String) (k : Nat) : d.maxLength = some k → k < text.length →
    Violated d (.text text) "max_length"
  | pattern (text p : String) : d.pattern = some p → ¬matchesText π p text →
    Violated d (.text text) "pattern"
  | required (members : List (String × Json.Value)) (field : String) : field ∈ d.required →
    (∀ value, Json.findMember? field members = some value → value = .null) →
    Violated d (.json (.object members)) ("required:" ++ field)
  | field (members : List (String × Json.Value)) (f : String × String) (value : Json.Value) :
    f ∈ d.fields → Json.findMember? f.1 members = some value →
    (∀ text, value = .string text → ¬matchesText π f.2 text) →
    Violated d (.json (.object members)) ("pattern:" ++ f.1)

end Rules

section Violations

variable {π : Type} [PatternLanguage π] {d : RulesDecl} {members : List (String × Json.Value)}

theorem isNull_iff {value : Json.Value} : value.isNull = true ↔ value = .null := by
  cases value <;> simp [Json.Value.isNull]

theorem isMissing_iff {field : String} : isMissing members field = true ↔
    ∀ value, Json.findMember? field members = some value → value = .null := by
  simp [isMissing, Option.all_eq_true, isNull_iff]

theorem isMismatch_iff {f : String × String} : isMismatch π members f = true ↔
    ∃ value, Json.findMember? f.1 members = some value ∧
      ∀ text, value = .string text → ¬matchesText π f.2 text := by
  rw [isMismatch, Option.any_eq_true]
  refine exists_congr fun value => and_congr_right fun _ => ?_
  cases value <;> simp [Json.Value.string?]

namespace RulesDecl

theorem hasTextRules_of_maxLength {k : Nat} (h : d.maxLength = some k) : d.hasTextRules :=
  hasTextRules_iff.2 (.inr (by simp [h]))

theorem hasTextRules_of_pattern {text : String} (h : d.pattern = some text) : d.hasTextRules :=
  hasTextRules_iff.2 (.inl (by simp [h]))

theorem hasObjectRules_of_required {field : String} (h : field ∈ d.required) : d.hasObjectRules :=
  hasObjectRules_iff.2 (.inl (List.ne_nil_of_mem h))

theorem hasObjectRules_of_field {f : String × String} (h : f ∈ d.fields) : d.hasObjectRules :=
  hasObjectRules_iff.2 (.inr (List.ne_nil_of_mem h))

-- What is listed is broken, and what is broken is listed.
theorem violated_of_mem {p : Payload} {rule : String} (h : rule ∈ d.violations π p) :
    d.Violated π p rule := by
  cases p
  case text text =>
    simp only [violations, List.mem_append, List.mem_ite_nil_right, List.mem_singleton,
      Option.any_eq_true, decide_eq_true_eq, Bool.not_eq_true'] at h
    rcases h with ⟨ho, rfl⟩ | ⟨⟨k, hk, hl⟩, rfl⟩ | ⟨⟨p, hp, hm⟩, rfl⟩
    · exact .object _ ho (by simp)
    · exact .maxLength text k hk hl
    · exact .pattern text p hp (by simp [hm])
  case json value =>
    simp only [violations, List.mem_append, List.mem_ite_nil_right, List.mem_singleton] at h
    rcases h with ⟨ht, rfl⟩ | ⟨ho, h⟩
    · exact .string value ht
    cases value
    case object members =>
      simp only [fieldViolations, List.mem_append, List.mem_flatMap, List.mem_ite_nil_right,
        List.mem_singleton] at h
      rcases h with ⟨field, hf, hm, rfl⟩ | ⟨f, hf, hm, rfl⟩
      · exact .required members field hf (isMissing_iff.1 hm)
      · obtain ⟨value, hv, ht⟩ := isMismatch_iff.1 hm
        exact .field members f value hf hv ht
    all_goals
      cases List.mem_singleton.1 h
      exact .object _ ho (by simp)

theorem mem_violations {p : Payload} {rule : String} (h : d.Violated π p rule) :
    rule ∈ d.violations π p := by
  cases h
  case string value ht         => simp [violations, ht]
  case maxLength text k hk hl  => simp [violations, hk, hl]
  case pattern text p hp hm    => simp [violations, hp, hm]
  case required members field hf hv =>
    have ho : d.hasObjectRules := hasObjectRules_of_required hf
    have hm : "required:" ++ field ∈ d.fieldViolations π (.object members) :=
      List.mem_append_left _ (List.mem_flatMap.2 ⟨field, hf, by simp [isMissing_iff.2 hv]⟩)
    simpa [violations, ho] using .inr hm
  case field members f value hf hv ht =>
    have ho : d.hasObjectRules := hasObjectRules_of_field hf
    have hm : "pattern:" ++ f.1 ∈ d.fieldViolations π (.object members) :=
      List.mem_append_right _
        (List.mem_flatMap.2 ⟨f, hf, by simp [isMismatch_iff.2 ⟨value, hv, ht⟩]⟩)
    simpa [violations, ho] using .inr hm
  case object ho hp =>
    cases p
    case text text => simp [violations, ho]
    case json value =>
      cases value
      case object members => exact absurd rfl (hp members)
      all_goals simp [violations, fieldViolations, ho]

-- Admitted is what breaks no rule. Only rules for both shapes would refuse what they admit.
theorem not_violated_of_admits {p : Payload} {rule : String}
    (hu : ¬(d.hasTextRules ∧ d.hasObjectRules)) (ha : d.Admits π p) : ¬d.Violated π p rule := by
  intro h
  cases ha
  case unruled ht ho =>
    cases h
    case string ht'       => exact ht ht'
    case object ho' _     => exact ho ho'
    case maxLength hk _   => exact ht (hasTextRules_of_maxLength hk)
    case pattern hp _     => exact ht (hasTextRules_of_pattern hp)
    case required hf _    => exact ho (hasObjectRules_of_required hf)
    case field hf _ _     => exact ho (hasObjectRules_of_field hf)
  case text ht hl hm =>
    cases h
    case object ho _        => exact hu ⟨ht, ho⟩
    case maxLength k hk hlt => exact absurd (hl k hk) (Nat.not_le.2 hlt)
    case pattern p hp hn    => exact hn (hm p hp)
  case object members ho hr hf =>
    cases h
    case string ht => exact hu ⟨ht, ho⟩
    case object hp => exact hp members rfl
    case required field hfield hv =>
      obtain ⟨value, hv', hne⟩ := hr field hfield
      exact hne (hv value hv')
    case field f value hfield ht hv =>
      obtain ⟨text, rfl, hm⟩ := hf f hfield value hv
      exact ht text rfl hm

theorem admits_of_not_violated {p : Payload} (h : ∀ rule, ¬d.Violated π p rule) :
    d.Admits π p := by
  by_cases ht : d.hasTextRules
  · cases p
    case json value => exact absurd (.string value ht) (h _)
    case text text =>
      refine .text text ht (fun k hk => ?_) (fun p hp => ?_)
      · exact Nat.not_lt.1 fun hl => h _ (.maxLength text k hk hl)
      · exact Classical.not_not.1 fun hm => h _ (.pattern text p hp hm)
  by_cases ho : d.hasObjectRules
  · cases p
    case text text => exact absurd (.object _ ho (by simp)) (h _)
    case json value =>
      cases value
      case object members =>
        refine .object members ho (fun field hf => ?_) (fun f hf value hv => ?_)
        · have hr := mt (.required members field hf) (h ("required:" ++ field))
          simpa using hr
        · have hr := mt (.field members f value hf hv) (h ("pattern:" ++ f.1))
          simpa using hr
      all_goals exact absurd (.object _ ho (by simp)) (h _)
  · exact .unruled p ht ho

theorem violations_eq_nil_iff {p : Payload} (hu : ¬(d.hasTextRules ∧ d.hasObjectRules)) :
    d.violations π p = [] ↔ d.Admits π p := by
  rw [List.eq_nil_iff_forall_not_mem]
  constructor
  · exact fun h => admits_of_not_violated fun rule hv => h rule (mem_violations hv)
  · exact fun h rule hm => not_violated_of_admits hu h (violated_of_mem hm)

end RulesDecl
end Violations

section Checks

variable {π : Type} [PatternLanguage π] {d : RulesDecl} {r : Rules π}

theorem matchesText_of_compile {pattern text : String} {p : π}
    (h : PatternLanguage.compile pattern = .ok p) :
    matchesText π pattern text = PatternLanguage.isMatch p text := by
  simp only [matchesText, h]

theorem Rules.checkRequired_reports (entry field : String) (members : List (String × Json.Value)) :
    Reports (checkRequired entry members field)
      (if isMissing members field then [.invalidEntry entry ("required:" ++ field)] else []) := by
  unfold checkRequired isMissing
  cases Json.findMember? field members
  case none => exact .error _ _
  case some value =>
    cases value
    case null => exact .error _ _
    all_goals exact .ok ()

theorem Rules.checkField_reports {f : String × String} {f' : String × π} (entry : String)
    (members : List (String × Json.Value)) (hn : f'.1 = f.1)
    (hc : PatternLanguage.compile f.2 = .ok f'.2) :
    Reports (checkField entry members f')
      (if isMismatch π members f then [.invalidEntry entry ("pattern:" ++ f.1)] else []) := by
  unfold checkField isMismatch
  rw [hn]
  cases Json.findMember? f.1 members
  case none => exact .ok ()
  case some value =>
    cases value
    case string text =>
      simp only [Option.any_some, Json.Value.string?, matchesText_of_compile hc]
      cases PatternLanguage.isMatch f'.2 text
      case false => exact .error _ _
      case true  => exact .ok ()
    all_goals exact .error _ _

namespace Compiled

theorem hasTextRules_eq (c : Compiled d r) : r.hasTextRules = d.hasTextRules := by
  obtain ⟨-, -, hp, hm, -⟩ := c
  rw [Rules.hasTextRules, RulesDecl.hasTextRules, hm]
  generalize d.pattern = text, r.pattern = p at hp
  cases hp <;> rfl

theorem hasObjectRules_eq (c : Compiled d r) : r.hasObjectRules = d.hasObjectRules := by
  obtain ⟨hr, hf, -, -, -⟩ := c
  rw [Rules.hasObjectRules, RulesDecl.hasObjectRules, hr]
  generalize d.fields = fields, r.fields = fields' at hf
  cases hf <;> rfl

theorem pattern_any_eq (c : Compiled d r) (text : String) :
    (r.pattern.any fun p => !PatternLanguage.isMatch p text) =
      d.pattern.any fun p => !matchesText π p text := by
  obtain ⟨-, -, hp, -, -⟩ := c
  generalize d.pattern = pattern, r.pattern = p at hp
  cases hp
  case some hc => simp only [Option.any_some, matchesText_of_compile hc]
  case none    => rfl

-- A check goes through the violations, and names the first one.
theorem check_reports (c : Compiled d r) (entry : String) (p : Payload) :
    Reports (r.check entry p) ((d.violations π p).map (Failure.invalidEntry entry)) := by
  cases p
  case text text =>
    simp only [RulesDecl.violations, List.map_append, apply_ite (List.map _), List.map_cons,
      List.map_nil]
    rw [← c.hasObjectRules_eq, ← c.maxLength, ← c.pattern_any_eq]
    exact .guard _ _ (.guard _ _ (.test _ _ ()))
  case json value =>
    simp only [RulesDecl.violations, List.map_append, apply_ite (List.map _), List.map_cons,
      List.map_nil]
    rw [← c.hasObjectRules_eq, ← c.hasTextRules_eq]
    refine .guard _ _ ?_
    cases r.hasObjectRules
    case false => exact .ok ()
    case true =>
      cases value
      case object members =>
        simp only [RulesDecl.fieldViolations, List.map_append, List.map_flatMap,
          apply_ite (List.map _), List.map_cons, List.map_nil]
        refine .bind (.forM ?_) fun _ _ => .forM (c.fields.imp ?_)
        · rw [c.required, List.forall₂_same]
          exact fun field _ => Rules.checkRequired_reports entry field members
        · exact fun f f' h => Rules.checkField_reports entry members h.1 h.2
      all_goals exact .error _ _

theorem check_eq_ok_iff (c : Compiled d r) {entry : String} {p : Payload} :
    r.check entry p = .ok () ↔ d.Admits π p := by
  have h := (c.check_reports entry p).isOk_iff
  rw [List.map_eq_nil_iff, RulesDecl.violations_eq_nil_iff c.unmixed] at h
  exact ⟨fun hx => h.1 ⟨(), hx⟩, fun ha => (h.2 ha).elim fun _ hx => hx⟩

theorem check_of_not_admits (c : Compiled d r) (entry : String) {p : Payload} (h : ¬d.Admits π p) :
    ∃ rule, d.Violated π p rule ∧ (d.violations π p).head? = some rule ∧
      r.check entry p = .error (.invalidEntry entry rule) := by
  have hr := c.check_reports entry p
  cases hv : d.violations π p
  case nil => exact absurd ((RulesDecl.violations_eq_nil_iff c.unmixed).1 hv) h
  case cons rule rest =>
    have hm : rule ∈ d.violations π p := hv ▸ List.mem_cons_self
    exact ⟨rule, RulesDecl.violated_of_mem hm, rfl, hr.error_iff.2 (by rw [hv]; rfl)⟩

end Compiled
end Checks

section Validation

variable {π : Type} [PatternLanguage π] {s : Source} {n : Declared π} {entry : EntryType}
  {p : Payload}

namespace Loaded

theorem validate_of_undeclared (h : Loaded s n) (hp : p.schema = entry.format)
    (hd : Json.findMember? entry.name s.entries = none) : n.validate entry p = .ok () := by
  rcases Json.findMember?_of_forall₂ (R := fun _ d r => Compiled d r) h.rules entry.name with
    ⟨-, hr⟩ | ⟨d, r, hd', -, -⟩
  · rw [validate, ensureSchema, if_pos hp, hr]
    rfl
  · cases hd.symm.trans hd'

theorem validate_of_declared (h : Loaded s n) (hp : p.schema = entry.format) {d : RulesDecl}
    (hd : Json.findMember? entry.name s.entries = some d) :
    ∃ r : Rules π, Compiled d r ∧ n.validate entry p = r.check entry.name p := by
  rcases Json.findMember?_of_forall₂ (R := fun _ d r => Compiled d r) h.rules entry.name with
    ⟨hd', -⟩ | ⟨d', r, hd', hr, hc⟩
  · cases hd.symm.trans hd'
  · cases hd.symm.trans hd'
    refine ⟨r, hc, ?_⟩
    rw [validate, ensureSchema, if_pos hp, hr]
    rfl

-- A payload of the format of its entry type is refused for a rule, and for nothing else.
theorem validate_error (h : Loaded s n) (hp : p.schema = entry.format) {e : Failure}
    (he : n.validate entry p = .error e) : ∃ rule, e = .invalidEntry entry.name rule := by
  cases hd : Json.findMember? entry.name s.entries
  case none =>
    rw [h.validate_of_undeclared hp hd] at he
    cases he
  case some d =>
    obtain ⟨r, c, hv⟩ := h.validate_of_declared hp hd
    rw [hv] at he
    have hm := List.mem_of_head? ((c.check_reports entry.name p).error_iff.1 he)
    obtain ⟨rule, -, rfl⟩ := List.mem_map.1 hm
    exact ⟨rule, rfl⟩

end Loaded

-- An entry has to have the format of its type and to be admitted by the rules for it. The rule that
-- is named where it is not is one that it breaks, the first one.
theorem validate_reports_first_violation {code : String} (h : load code = .ok n) :
    ∃ s, Source.ofText code = .ok s ∧ (s.entries.map Prod.fst).Nodup ∧
      (∀ e ∈ s.entries, (e.2.fields.map fun f => Text.bytes f.1).Pairwise (· < ·)) ∧
      ∀ (entry : EntryType) (p : Payload),
        (n.validate entry p = .error (.schemaMismatch entry.name entry.format p.schema) ↔
          p.schema ≠ entry.format) ∧
        (p.schema = entry.format →
          (n.validate entry p = .ok () ↔ ∀ d, (entry.name, d) ∈ s.entries → d.Admits π p) ∧
          ∀ d, (entry.name, d) ∈ s.entries → ¬d.Admits π p →
            ∃ rule, d.Violated π p rule ∧ (d.violations π p).head? = some rule ∧
              n.validate entry p = .error (.invalidEntry entry.name rule)) := by
  obtain ⟨s, hs, l⟩ := load_eq_ok h
  have hsorted := Source.sorted_of_ofText hs
  refine ⟨s, hs, hsorted.entries.nodup, fun e he => (hsorted.fields e he).bytes, fun entry p => ?_⟩
  by_cases hp : p.schema = entry.format
  case neg =>
    have hv : n.validate entry p = .error (.schemaMismatch entry.name entry.format p.schema) := by
      rw [validate, ensureSchema, if_neg hp]
      rfl
    exact ⟨⟨fun _ => hp, fun _ => hv⟩, fun he => absurd he hp⟩
  case pos =>
    simp only [← Json.findMember?_eq_some_iff hsorted.entries.nodup]
    cases hd : Json.findMember? entry.name s.entries
    case none => simp [l.validate_of_undeclared hp hd, hp]
    case some d =>
      obtain ⟨r, c, hv⟩ := l.validate_of_declared hp hd
      rw [hv]
      refine ⟨⟨fun he => ?_, absurd hp⟩, fun _ => ⟨?_, ?_⟩⟩
      · have hm := (c.check_reports entry.name p).error_iff.1 he
        simp at hm
      · simp [c.check_eq_ok_iff]
      · rintro _ ⟨⟩ hn
        exact c.check_of_not_admits entry.name hn

theorem validate_refuses_null_for_optional_field :
    ∃ n : Declared Pattern, load "[[],\x7b\"page\":[[\"id\"],\x7b\"slug\":\"a\"\x7d]\x7d]" = .ok n ∧
      n.validate ⟨"page", .json⟩ (.json (.object [("id", .bool true), ("slug", .null)])) =
        .error (.invalidEntry "page" "pattern:slug") ∧
      n.validate ⟨"page", .json⟩ (.json (.object [("id", .bool true), ("slug", .string "cat")])) =
        .ok () := by
  have hs : Source.ofText "[[],\x7b\"page\":[[\"id\"],\x7b\"slug\":\"a\"\x7d]\x7d]" =
      .ok ⟨[], [("page", ⟨["id"], [("slug", "a")], none, none⟩)]⟩ := by cbv
  obtain ⟨n, hn⟩ := exists_load (π := Pattern) hs (by decide +kernel)
  obtain ⟨s, hs', -, -, hv⟩ := validate_reports_first_violation hn
  cases hs.symm.trans hs'
  obtain ⟨-, hnull⟩ := hv ⟨"page", .json⟩ (.json (.object [("id", .bool true), ("slug", .null)]))
  obtain ⟨-, hcat⟩ := hv ⟨"page", .json⟩
    (.json (.object [("id", .bool true), ("slug", .string "cat")]))
  have hpage (p : Payload) := RulesDecl.violations_eq_nil_iff (π := Pattern)
    (d := ⟨["id"], [("slug", "a")], none, none⟩) (p := p) (by decide)
  refine ⟨n, hn, ?null, (hcat rfl).1.2 fun d hd => ?cat⟩
  case null =>
    obtain ⟨rule, -, hr, he⟩ := (hnull rfl).2 _ (.head _) (mt (hpage _).2 (by decide +kernel))
    cases hr.symm.trans (show _ = some "pattern:slug" by decide +kernel)
    exact he
  case cat =>
    cases List.mem_singleton.1 hd
    exact (hpage _).1 (by decide +kernel)

end Validation
end ChainHost.Declared
