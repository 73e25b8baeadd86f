import ChainHost.Proofs.Declared.Calls
import ChainHost.Proofs.Json.Stable

namespace ChainHost.Declared

open Json (Value Number Numeral)

variable {π : Type} [PatternLanguage π] {code : String} {n : Declared π}

theorem FunctionDecl.wireAnswer_echo {d : FunctionDecl} (hs : d.schema = .json)
    (hr : d.returns = none) (he : d.error = none) {raw t : String} :
    d.wireAnswer raw = .ok t ↔ ∃ v, Value.ofText raw = .ok v ∧ v.text = t := by
  rw [wireAnswer, hs, hr, he, wireParams]
  cases Value.ofText raw <;> simp

-- A function of JSON without a constant and an error answers what it has answered with the same text
-- just if each double in it is read back from what is written for it. Doubles of few digits are.
theorem echo_is_stable (h : load code = .ok n) :
    ∃ s, Source.ofText code = .ok s ∧
      ∀ d ∈ s.functions, d.schema = .json → d.returns = none → d.error = none →
        ∀ raw t, (Nucleus.callEncoded n d.name raw).1 = .ok t →
          ∃ v, Value.ofText raw = .ok v ∧ v.text = t ∧
            ((Nucleus.callEncoded n d.name t).1 = .ok t ↔
              ∀ x, .double x ∈ v.numbers → (Number.double x).Settled) ∧
            ∀ x, .double x ∈ v.numbers →
              (Number.double x).numeral.significand ≤ Numeral.maxSignificand →
              Double.Exact (Number.double x).numeral.significand →
              (Number.double x).numeral.power.natAbs ≤ 22 → (Number.double x).Settled := by
  obtain ⟨s, hs, l⟩ := load_eq_ok h
  refine ⟨s, hs, fun d hd hschema hreturns herror raw t ht => ?_⟩
  have hecho {raw t : String} :
      d.wireAnswer raw = .ok t ↔ ∃ v, Value.ofText raw = .ok v ∧ v.text = t :=
    d.wireAnswer_echo hschema hreturns herror
  simp only [l.callEncoded_of_mem hd, hecho] at ht ⊢
  obtain ⟨v, hv, rfl⟩ := ht
  refine ⟨v, hv, rfl, Value.rewritten_iff hv, fun x hx hs he hp => ?_⟩
  exact Number.settled_of_exact (Value.canonical_of_ofText hv hx) hs he hp

-- A function of JSON with neither.
def echoCode : String :=
  "\x7b\"functions\":[\x7b\"name\":\"f\",\"schema\":\"json\"\x7d]\x7d"

theorem ofText_echoCode : Source.ofText echoCode = .ok ⟨[⟨"f", .json, none, none⟩], []⟩ := by
  cbv

theorem echo_is_stable_for_few_digits :
    ∃ n : Declared Pattern, load echoCode = .ok n ∧
      (Nucleus.callEncoded n "f" " 1.50e1 ").1 = .ok "15.0" ∧
      (Nucleus.callEncoded n "f" "15.0").1 = .ok "15.0" := by
  obtain ⟨n, hn⟩ := exists_load (π := Pattern) ofText_echoCode (by decide)
  obtain ⟨_, hs, l⟩ := load_eq_ok hn
  obtain ⟨s, hs', hecho⟩ := echo_is_stable hn
  cases hs.symm.trans hs'
  cases ofText_echoCode.symm.trans hs
  have hf : (Nucleus.callEncoded n "f" " 1.50e1 ").1 = .ok "15.0" := by
    rw [l.callEncoded_of_mem (.head _)]
    dsimp only
    decide +kernel
  obtain ⟨v, hv, -, hiff, hdigits⟩ := hecho _ (.head _) rfl rfl rfl _ _ hf
  have hv' : Value.ofText " 1.50e1 " = .ok (.number (.double ⟨false, 8444249301319680, -49⟩)) := rfl
  cases hv.symm.trans hv'
  refine ⟨n, hn, hf, hiff.2 fun x hx => hdigits x hx ?_ (Double.exact_of_lt ?_) ?_⟩
  all_goals
    obtain rfl : x = ⟨false, 8444249301319680, -49⟩ := by simpa [Value.numbers] using hx
    decide +kernel

-- The text of a double can be read as its neighbour, and the text of that as the first one again.
theorem echo_is_not_stable :
    ∃ n : Declared Pattern, load echoCode = .ok n ∧
      (Nucleus.callEncoded n "f" "5e32").1 = .ok "5.0000000000000004e+32" ∧
      (Nucleus.callEncoded n "f" "5.0000000000000004e+32").1 = .ok "5e+32" ∧
      (Nucleus.callEncoded n "f" "5e+32").1 = .ok "5.0000000000000004e+32" := by
  obtain ⟨n, hn⟩ := exists_load (π := Pattern) ofText_echoCode (by decide)
  obtain ⟨s, hs, l⟩ := load_eq_ok hn
  cases ofText_echoCode.symm.trans hs
  refine ⟨n, hn, ?_, ?_, ?_⟩
  all_goals
    rw [l.callEncoded_of_mem (.head _)]
    dsimp only
    decide +kernel

end ChainHost.Declared
