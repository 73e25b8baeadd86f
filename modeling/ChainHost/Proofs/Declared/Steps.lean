import ChainHost.Proofs.Declared.Load

namespace ChainHost.Declared

variable {π : Type} {n : Declared π}

section Catalog

variable (h : n.catalog.closed = true)
include h

theorem stage_of_closed : n.stage = .ready := by
  rw [stage, Catalog.stage, if_pos h]

theorem expose_of_closed (i : Interface) : n.expose i = .error (.exposureClosed i.name) := by
  rw [expose, Catalog.expose_of_closed h]
  rfl

end Catalog

variable [PatternLanguage π]

theorem callEncoded_keeps (n : Declared π) (name raw : String) :
    (Nucleus.callEncoded n name raw).2 = n := by
  unfold Nucleus.callEncoded
  split
  case h_1 => rfl
  case h_2 => split <;> rfl

theorem use_keeps (n : Declared π) (u : Nucleus.Use) : (Nucleus.use n u).2 = n := by
  cases u
  case schemaOf             => rfl
  case call                 => rfl
  case callEncoded name raw => exact callEncoded_keeps n name raw
  case validate             => rfl

section Closed

variable (h : n.catalog.closed = true)
include h

theorem perform_expose_of_closed (i : Interface) :
    n.perform (.expose i) = (.expose (.error (.exposureClosed i.name)), n) := by
  simp only [perform, expose_of_closed h]

theorem perform_of_closed (step : Step) : (n.perform step).2 = n := by
  cases step
  case use u    => exact use_keeps n u
  case expose i => rw [perform_expose_of_closed h]

theorem performAll_of_closed (steps : List Step) :
    n.performAll steps = steps.map fun step => ((n.perform step).1, n) := by
  induction steps
  case nil => rfl
  case cons step steps hi =>
    have hs : n.perform step = ((n.perform step).1, n) :=
      Prod.ext rfl (perform_of_closed h step)
    rw [performAll, perform_of_closed h, hi, List.map_cons, ← hs]

end Closed

-- Whatever is asked of a nucleus that was loaded, it stays ready and with the interfaces of its source,
-- exposes nothing any more, and replies as if nothing had been asked before.
theorem steps_leave_nucleus_as_loaded {code : String} (h : load code = .ok n) (steps : List Step) :
    n.performAll steps = steps.map (fun step => ((n.perform step).1, n)) ∧
      n.stage = .ready ∧
      (∃ s, Source.ofText code = .ok s ∧
        Nucleus.interfaces n = s.functions.map fun d => ⟨d.name, d.schema⟩) ∧
      ∀ i, n.perform (.expose i) = (.expose (.error (.exposureClosed i.name)), n) := by
  obtain ⟨s, hs, l⟩ := load_eq_ok h
  have hc := l.closed
  exact ⟨performAll_of_closed hc steps, stage_of_closed hc, ⟨s, hs, l.interfaces⟩,
    perform_expose_of_closed hc⟩

-- A document without functions, then one whose function fails: neither an exposure nor a failure in
-- between changes what is answered.
def repeatedSteps : List Step :=
  [.use (.call "f" (.text "")), .expose ⟨"f", .json⟩, .expose ⟨"g", .string⟩,
    .use (.callEncoded "g" ""), .use (.schemaOf "g"), .use (.call "f" (.text ""))]

theorem steps_leave_nucleus_as_loaded_despite_failures :
    (∃ n : Declared Pattern, load "[]" = .ok n ∧ n.stage = .ready ∧
      n.performAll [.expose ⟨"f", .json⟩] = [(.expose (.error (.exposureClosed "f")), n)]) ∧
    ∃ n : Declared Pattern, load "[[[\"f\",\"string\",null,\"no\"]]]" = .ok n ∧
      n.performAll repeatedSteps =
        [(.use (.payload (.error (.failed "no"))), n),
          (.expose (.error (.exposureClosed "f")), n), (.expose (.error (.exposureClosed "g")), n),
          (.use (.encoded (.error (.notExposed "g"))), n),
          (.use (.schema (.error (.notExposed "g"))), n),
          (.use (.payload (.error (.failed "no"))), n)] := by
  constructor
  case left =>
    have hs : Source.ofText "[]" = .ok ⟨[], []⟩ := by cbv
    obtain ⟨n, hn⟩ := exists_load (π := Pattern) hs (by decide)
    obtain ⟨hp, hr, -, hx⟩ := steps_leave_nucleus_as_loaded hn [.expose ⟨"f", .json⟩]
    exact ⟨n, hn, hr, hp.trans (by simp [hx])⟩
  case right =>
    have hs : Source.ofText "[[[\"f\",\"string\",null,\"no\"]]]" =
        .ok ⟨[⟨"f", .string, none, some "no"⟩], []⟩ := by cbv
    obtain ⟨n, hn⟩ := exists_load (π := Pattern) hs (by decide)
    obtain ⟨hp, -, -, hx⟩ := steps_leave_nucleus_as_loaded hn repeatedSteps
    refine ⟨n, hn, hp.trans ?_⟩
    rw [load_of_ofText hs] at hn
    cases hn
    rfl

end ChainHost.Declared
