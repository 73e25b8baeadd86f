import Mathlib
import ChainHost.Proofs.Catalog
import ChainHost.Proofs.Declared.Source

namespace ChainHost.Declared

section Functions

theorem Behavior.ofDecl_reports (d : FunctionDecl) :
    Reports (Behavior.ofDecl d) (if d.hasBadConstant then [.load (.constant d.name)] else []) := by
  obtain ⟨name, schema, returns, error⟩ := d
  cases error
  case some => cases schema <;> exact .ok _
  case none =>
    rcases returns with _ | value
    case none => cases schema <;> exact .ok _
    case some =>
      cases schema <;> cases value
      case string.string | json.string => exact .ok _
      all_goals first | exact .error _ _ | exact .ok _

-- What is known after the functions of `decls`. The catalog and the functions agree, since a name
-- that the catalog takes has not been among the functions.
structure Known (decls : List FunctionDecl) (known : Catalog × List (String × Function)) : Prop where
  interfaces : known.1.interfaces = decls.map FunctionDecl.interface
  isOpen     : known.1.closed = false
  declared   : ∀ d ∈ decls, ∃ behavior, Behavior.ofDecl d = .ok behavior ∧
    Json.findMember? d.name known.2 = some ⟨d.schema, behavior⟩
  undeclared : ∀ name, name ∉ decls.map FunctionDecl.name → Json.findMember? name known.2 = none

namespace Known

variable {decls : List FunctionDecl} {known known' : Catalog × List (String × Function)}
  {d : FunctionDecl}

theorem empty : Known [] (Catalog.empty, []) where
  interfaces := rfl
  isOpen     := rfl
  declared   := by simp
  undeclared := by simp

theorem names_eq (k : Known decls known) :
    known.1.interfaces.map Interface.name = decls.map FunctionDecl.name := by
  simp [k.interfaces, FunctionDecl.interface]

theorem addFunction (k : Known decls known) (h : addFunction known d = .ok known') :
    Known (decls ++ [d]) known' := by
  obtain ⟨behavior, hb, h⟩ := bind_eq_ok_iff.1 h
  obtain ⟨catalog, hc, h⟩ := bind_eq_ok_iff.1 h
  cases h
  obtain ⟨-, hm, hi, ho⟩ := Catalog.expose_eq_ok hc
  rw [k.names_eq] at hm
  exact {
    interfaces := by simp [hi, k.interfaces, FunctionDecl.interface]
    isOpen     := ho
    declared   := by
      intro d' hd'
      simp only [Json.findMember?_insertMember]
      rcases List.mem_append.1 hd' with hd' | hd'
      · have hne : d.name ≠ d'.name := fun he => hm (he ▸ List.mem_map_of_mem hd')
        simpa [hne] using k.declared d' hd'
      · cases List.mem_singleton.1 hd'
        exact ⟨behavior, hb, by simp⟩
    undeclared := by
      intro name hn
      simp only [List.map_append, List.mem_append, not_or, List.map_cons, List.map_nil,
        List.mem_singleton] at hn
      simp only [Json.findMember?_insertMember, Ne.symm hn.2, if_false]
      exact k.undeclared name hn.1 }

theorem addFunction_reports (k : Known decls known) (d : FunctionDecl) :
    Reports (Declared.addFunction known d) (d.defects (decls.map FunctionDecl.name)) := by
  refine (Behavior.ofDecl_reports d).bind fun behavior _ => ?_
  rw [← k.names_eq, ← List.append_nil (ite _ _ _)]
  exact (Catalog.expose_reports k.isOpen ⟨d.name, d.schema⟩).bind fun _ _ => .ok _

theorem foldlM_addFunction {ds : List FunctionDecl} (k : Known decls known)
    (h : ds.foldlM Declared.addFunction known = .ok known') : Known (decls ++ ds) known' := by
  induction ds generalizing decls known
  case nil => cases h; simpa using k
  case cons d ds hi =>
    rw [List.foldlM_cons] at h
    obtain ⟨next, hn, h⟩ := bind_eq_ok_iff.1 h
    simpa using hi (k.addFunction hn) h

theorem foldlM_addFunction_reports {ds : List FunctionDecl} (k : Known decls known) :
    Reports (ds.foldlM Declared.addFunction known)
      (functionDefects (decls.map FunctionDecl.name) ds) := by
  induction ds generalizing decls known
  case nil => exact .ok known
  case cons d ds hi =>
    rw [List.foldlM_cons, functionDefects]
    refine (k.addFunction_reports d).bind fun next hn => ?_
    simpa using hi (k.addFunction hn)

end Known
end Functions

section Rules

variable {π : Type} [PatternLanguage π]

theorem Rules.compilePattern_reports (entry text : String) :
    Reports (Rules.compilePattern (π := π) entry text) (patternDefects π entry text) := by
  unfold Rules.compilePattern patternDefects
  cases PatternLanguage.compile (π := π) text
  case ok p      => exact .ok p
  case error msg => exact .error _ _

theorem Rules.compilePattern_eq_ok {entry text : String} {p : π}
    (h : Rules.compilePattern entry text = .ok p) : PatternLanguage.compile text = .ok p := by
  unfold Rules.compilePattern at h
  split at h <;> cases h
  assumption

-- Rules that were compiled from their declaration.
structure Compiled (d : RulesDecl) (r : Rules π) : Prop where
  required  : r.required = d.required
  fields    : List.Forall₂ (fun f f' => f'.1 = f.1 ∧ PatternLanguage.compile f.2 = .ok f'.2)
    d.fields r.fields
  pattern   : Option.Rel (fun text p => PatternLanguage.compile text = .ok p) d.pattern r.pattern
  maxLength : r.maxLength = d.maxLength
  unmixed   : ¬(d.hasTextRules ∧ d.hasObjectRules)

-- The steps of compiling, one after another.
theorem Rules.ofDecl_eq (entry : String) (d : RulesDecl) :
    Rules.ofDecl (π := π) entry d = (do
      let fields ← d.fields.mapM fun f => (compilePattern entry f.2).map fun p => (f.1, p)
      let pattern ← d.pattern.elim (.ok none) fun text => (compilePattern entry text).map some
      if d.hasTextRules && d.hasObjectRules then .error (.load (.mixed entry))
      else .ok { required := d.required, fields, pattern, maxLength := d.maxLength }) := by
  unfold Rules.ofDecl
  refine bind_congr fun fields => ?_
  cases d.pattern <;> cases d.hasTextRules && d.hasObjectRules <;> rfl

theorem Rules.ofDecl_reports (entry : String) (d : RulesDecl) :
    Reports (Rules.ofDecl (π := π) entry d) (d.defects π entry) := by
  have hfields : Reports (d.fields.mapM fun f =>
      (compilePattern (π := π) entry f.2).map fun p => (f.1, p))
      ((d.fields.map Prod.snd).flatMap (patternDefects π entry)) := by
    rw [List.flatMap_map]
    exact .mapM fun f _ => (compilePattern_reports entry f.2).map _
  have hpattern : Reports (d.pattern.elim (.ok none) fun text =>
      (compilePattern (π := π) entry text).map some)
      (d.pattern.toList.flatMap (patternDefects π entry)) := by
    cases d.pattern
    case none      => exact .ok none
    case some text => simpa using (compilePattern_reports entry text).map some
  rw [ofDecl_eq, RulesDecl.defects, RulesDecl.patterns, List.flatMap_append, List.append_assoc,
    ← List.append_nil (ite _ _ _)]
  exact hfields.bind fun _ _ => hpattern.bind fun _ _ => Reports.guard _ _ (.ok _)

theorem Compiled.of_ofDecl_eq_ok {entry : String} {d : RulesDecl} {r : Rules π}
    (h : Rules.ofDecl entry d = .ok r) : Compiled d r := by
  have hunmixed := (RulesDecl.defects_eq_nil_iff.1 ((Rules.ofDecl_reports entry d).eq_nil_of_ok h)).2
  rw [Rules.ofDecl_eq] at h
  obtain ⟨fields, hf, h⟩ := bind_eq_ok_iff.1 h
  obtain ⟨pattern, hp, h⟩ := bind_eq_ok_iff.1 h
  split at h <;> cases h
  exact {
    required  := rfl
    fields    := (mapM_eq_ok_iff.1 hf).imp fun f f' h => by
      obtain ⟨p, hp, rfl⟩ := map_eq_ok_iff.1 h
      exact ⟨rfl, Rules.compilePattern_eq_ok hp⟩
    pattern   := by
      cases hd : d.pattern <;> rw [hd] at hp
      case none => cases hp; exact .none
      case some text =>
        obtain ⟨p, hc, rfl⟩ := map_eq_ok_iff.1 hp
        exact .some (Rules.compilePattern_eq_ok hc)
    maxLength := rfl
    unmixed   := hunmixed }

end Rules

section Loading

variable {π : Type} [PatternLanguage π]

-- A nucleus that was made of a source.
structure Loaded (s : Source) (n : Declared π) : Prop where
  interfaces : n.catalog.interfaces = s.functions.map FunctionDecl.interface
  closed     : n.catalog.closed = true
  declared   : ∀ d ∈ s.functions, ∃ behavior, Behavior.ofDecl d = .ok behavior ∧
    Json.findMember? d.name n.functions = some ⟨d.schema, behavior⟩
  undeclared : ∀ name, name ∉ s.functions.map FunctionDecl.name →
    Json.findMember? name n.functions = none
  rules      : List.Forall₂ (fun e e' => e'.1 = e.1 ∧ Compiled e.2 e'.2) s.entries n.rules

theorem ofSource_reports (s : Source) : Reports (ofSource (π := π) s) (s.defects π) := by
  refine Known.empty.foldlM_addFunction_reports.bind fun known _ => ?_
  rw [← List.append_nil (List.flatMap _ _)]
  refine (Reports.mapM fun e _ => ?_).bind fun rules _ => .ok _
  exact (Rules.ofDecl_reports e.1 e.2).map fun rules => (e.1, rules)

theorem Loaded.of_ofSource_eq_ok {s : Source} {n : Declared π} (h : ofSource s = .ok n) :
    Loaded s n := by
  obtain ⟨known, hk, h⟩ := bind_eq_ok_iff.1 h
  obtain ⟨rules, hr, h⟩ := bind_eq_ok_iff.1 h
  cases h
  have k := Known.empty.foldlM_addFunction hk
  exact {
    interfaces := k.interfaces
    closed     := rfl
    declared   := k.declared
    undeclared := k.undeclared
    rules      := (mapM_eq_ok_iff.1 hr).imp fun e e' h => by
      obtain ⟨r, hr, h⟩ := bind_eq_ok_iff.1 h
      cases h
      exact ⟨rfl, .of_ofDecl_eq_ok hr⟩ }

theorem load_eq_ok {code : String} {n : Declared π} (h : load code = .ok n) :
    ∃ s, Source.ofText code = .ok s ∧ Loaded s n := by
  unfold load at h
  split at h
  case h_1 s hs => exact ⟨s, hs, .of_ofSource_eq_ok h⟩
  case h_2      => cases h

-- Code is refused for what it says, or for a name that it repeats.
theorem load_eq_error {code : String} {e : Failure} (h : load (π := π) code = .error e) :
    (∃ cause, e = .load cause) ∨ ∃ name, e = .alreadyExposed name := by
  unfold load at h
  split at h
  case h_2 =>
    cases h
    exact .inl ⟨_, rfl⟩
  case h_1 s _ =>
    have hm : e ∈ s.defects π := List.mem_of_head? ((ofSource_reports s).error_iff.1 h)
    rcases List.mem_append.1 hm with hm | hm
    case inl => exact mem_functionDefects hm
    case inr =>
      obtain ⟨entry, -, hm⟩ := List.mem_flatMap.1 hm
      exact .inl (RulesDecl.mem_defects hm)

theorem load_of_ofText {code : String} {s : Source} (h : Source.ofText code = .ok s) :
    load (π := π) code = ofSource s := by
  simp only [load, h]

theorem exists_load {code : String} {s : Source} (h : Source.ofText code = .ok s)
    (hd : s.defects π = []) : ∃ n : Declared π, load code = .ok n := by
  rw [load_of_ofText h]
  exact (ofSource_reports s).isOk_iff.2 hd

-- Loading succeeds for acceptable sources alone, and otherwise fails with what is wrong first. Neither
-- a function nor an entry type of a source gets lost.
theorem load_reports_first_defect (code : String) :
    ((∃ n : Declared π, load code = .ok n) ↔
      ∃ s, Source.ofText code = .ok s ∧ s.Acceptable π) ∧
    (∀ fault, Source.ofText code = .error fault →
      load (π := π) code = .error (.load (.malformed (fault.message code)))) ∧
    ∀ s, Source.ofText code = .ok s →
      (∀ e, load (π := π) code = .error e ↔ (s.defects π).head? = some e) ∧
      (s.entries.map fun e => Text.bytes e.1).Pairwise (· < ·) ∧
      (∀ e ∈ s.entries, (e.2.fields.map fun f => Text.bytes f.1).Pairwise (· < ·)) ∧
      ∀ n : Declared π, load code = .ok n →
        n.catalog.interfaces = s.functions.map FunctionDecl.interface ∧
        n.rules.map Prod.fst = s.entries.map Prod.fst := by
  cases hc : Source.ofText code
  case error fault => simp [load, hc]
  case ok s =>
    have hl := load_of_ofText (π := π) hc
    have hr : Reports (load (π := π) code) (s.defects π) := hl ▸ ofSource_reports s
    have hs := Source.sorted_of_ofText hc
    refine ⟨?accepted, by simp, ?_⟩
    case accepted =>
      rw [hr.isOk_iff, Source.defects_eq_nil_iff]
      simp
    rintro _ ⟨⟩
    refine ⟨fun e => hr.error_iff, hs.entries.bytes, fun e he => (hs.fields e he).bytes, fun n hn => ?_⟩
    have hn := Loaded.of_ofSource_eq_ok (hl ▸ hn)
    exact ⟨hn.interfaces, Json.keys_of_forall₂ (R := fun _ d r => Compiled d r) hn.rules⟩

theorem load_reports_constant_before_repetition :
    load (π := Pattern) "[[[\"f\",\"json\"],[\"f\",\"string\",1]],\x7b\"e\":[[],\x7b\x7d,\"(\"]\x7d]" =
      .error (.load (.constant "f")) := by
  have hs : Source.ofText "[[[\"f\",\"json\"],[\"f\",\"string\",1]],\x7b\"e\":[[],\x7b\x7d,\"(\"]\x7d]" =
      .ok ⟨[⟨"f", .json, none, none⟩, ⟨"f", .string, some (.number (.integer 1)), none⟩],
        [("e", ⟨[], [], some "(", none⟩)]⟩ := by cbv
  exact (((load_reports_first_defect _).2.2 _ hs).1 _).2 (by decide +kernel)

end Loading
end ChainHost.Declared
