import ChainHost.Proofs.Declared.Calls
import ChainHost.Proofs.Declared.Document

namespace ChainHost.Declared

open Json (Value findMember?)

section Behavior

variable {d : FunctionDecl} {behavior : Behavior}

theorem Behavior.eq_constant (h : ofDecl d = .ok behavior) (he : d.error = none) {value : Value}
    (hr : d.returns = some value) :
    ∃ result : Payload, result.schema = d.schema ∧ result.toValue = value ∧
      behavior = .constant result := by
  obtain ⟨name, schema, returns, error⟩ := d
  cases he
  cases hr
  cases schema <;> cases value <;> cases h
  case string.string.refl text => exact ⟨.text text, rfl, rfl, rfl⟩
  all_goals exact ⟨.json _, rfl, rfl, rfl⟩

theorem Behavior.eq_echo (h : ofDecl d = .ok behavior) (he : d.error = none)
    (hr : d.returns = none) : behavior = .echo := by
  unfold ofDecl at h
  rw [he, hr] at h
  cases h
  rfl

end Behavior

variable {π : Type} [PatternLanguage π] {code : String} {n : Declared π}

-- Where a function declares a constant and no error, each call with params of its schema answers with
-- the constant; but with the params themselves if the constant is null.
theorem constant_is_returned (h : load code = .ok n) :
    ∃ document, Value.ofText code = .ok document ∧
      ∀ f ∈ functionValues document, ∀ ms, FunctionDecl.layout.members? f = some ms →
        findMember? "error" ms = none → ∀ value, findMember? "returns" ms = some value →
          ∃ name schema, findMember? "name" ms = some (.string name) ∧
            (∃ v, findMember? "schema" ms = some v ∧ v.IsSchema schema) ∧
            Nucleus.schemaOf n name = .ok schema ∧
            (value ≠ .null → ∃ result : Payload, result.schema = schema ∧ result.toValue = value ∧
              ∀ p : Payload, p.schema = schema → Nucleus.call n name p = (.ok result, n)) ∧
            (value = .null → ∀ p : Payload, p.schema = schema →
              Nucleus.call n name p = (.ok p, n)) := by
  obtain ⟨s, hs, l⟩ := load_eq_ok h
  obtain ⟨document, hd, hs⟩ := Source.exists_document hs
  refine ⟨document, hd, fun f hf ms hms herror value hreturns => ?_⟩
  obtain ⟨d, hd, ms', hms', stands⟩ := hs.exists_function hf
  cases hms.symm.trans hms'
  obtain ⟨behavior, hb, hc⟩ := l.call_of_mem hd
  have he : d.error = none := by simpa [herror, eq_comm] using stands.error
  have hr : d.returns = value.nonNull? := by simpa [hreturns, eq_comm] using stands.returns
  have hcall (p : Payload) (hp : p.schema = d.schema) :
      Nucleus.call n d.name p = (behavior.answer p, n) := by
    simp only [Nucleus.call, hc, if_pos hp]
  refine ⟨d.name, d.schema, stands.name, stands.schema, l.schemaOf_of_mem hd, ?constant, ?null⟩
  case constant =>
    intro hv
    obtain ⟨result, hs, ht, rfl⟩ := Behavior.eq_constant hb he (hr.trans (Value.nonNull?_of_ne hv))
    exact ⟨result, hs, ht, hcall⟩
  case null =>
    rintro rfl p hp
    obtain rfl := Behavior.eq_echo hb he hr
    exact hcall p hp

-- A function whose constant is null, and one with a text.
def constantsCode : String :=
  "\x7b\"functions\":[\x7b\"name\":\"f\",\"schema\":\"json\",\"returns\":null\x7d," ++
    "\x7b\"name\":\"g\",\"schema\":\"string\",\"returns\":\"a\"\x7d]\x7d"

theorem constant_is_returned_unless_null :
    ∃ n : Declared Pattern, load constantsCode = .ok n ∧
      Nucleus.call n "f" (.json (.bool true)) = (.ok (.json (.bool true)), n) ∧
      Nucleus.call n "g" (.text "b") = (.ok (.text "a"), n) := by
  have hs : Source.ofText constantsCode =
      .ok ⟨[⟨"f", .json, none, none⟩, ⟨"g", .string, some (.string "a"), none⟩], []⟩ := by cbv
  have hv : Value.ofText constantsCode = .ok (.object [("functions", .array [
      .object [("name", .string "f"), ("returns", .null), ("schema", .string "json")],
      .object [("name", .string "g"), ("returns", .string "a"), ("schema", .string "string")]])]) := by
    cbv
  obtain ⟨n, hn⟩ := exists_load (π := Pattern) hs (by decide)
  obtain ⟨document, hd, hf⟩ := constant_is_returned hn
  cases hv.symm.trans hd
  obtain ⟨_, _, ⟨⟩, ⟨_, ⟨⟩, hj⟩, -, -, hnull⟩ := hf _ (.head _) _ rfl rfl .null rfl
  obtain ⟨_, _, ⟨⟩, ⟨_, ⟨⟩, ht⟩, -, htext, -⟩ := hf _ (.tail _ (.head _)) _ rfl rfl (.string "a") rfl
  cases hj.eq (t := .json)
  cases ht.eq (t := .string)
  obtain ⟨result, hr, hvalue, hcall⟩ := htext (by simp)
  cases result <;> cases hvalue <;> cases hr
  exact ⟨n, hn, hnull rfl _ rfl, hcall (.text "b") rfl⟩

end ChainHost.Declared
