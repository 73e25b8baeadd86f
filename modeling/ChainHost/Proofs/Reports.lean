import Mathlib.Data.List.Forall2

namespace ChainHost

-- The answer of a check that goes through some defects in their order and fails with the first one.
inductive Reports {ε α : Type} : Except ε α → List ε → Prop
  | ok (a : α) : Reports (.ok a) []
  | error (e : ε) (rest : List ε) : Reports (.error e) (e :: rest)

namespace Reports

variable {ε α β : Type} {x : Except ε α} {defects : List ε}

theorem isOk_iff (h : Reports x defects) : (∃ a, x = .ok a) ↔ defects = [] := by
  cases h <;> simp

theorem error_iff {e : ε} (h : Reports x defects) : x = .error e ↔ defects.head? = some e := by
  cases h <;> simp

theorem eq_nil_of_ok {a : α} (h : Reports x defects) (hx : x = .ok a) : defects = [] :=
  h.isOk_iff.1 ⟨a, hx⟩

theorem bind {f : α → Except ε β} {rest : List ε} (h : Reports x defects)
    (hf : ∀ a, x = .ok a → Reports (f a) rest) : Reports (x >>= f) (defects ++ rest) := by
  cases h
  case ok a      => exact hf a rfl
  case error e _ => exact .error e _

theorem map (f : α → β) (h : Reports x defects) : Reports (x.map f) defects := by
  cases h
  case ok a      => exact .ok (f a)
  case error e _ => exact .error e _

-- A test that comes before the other checks.
theorem guard {rest : List ε} (b : Bool) (e : ε) (h : Reports x rest) :
    Reports (if b then .error e else x) ((if b then [e] else []) ++ rest) := by
  cases b
  case false => exact h
  case true  => exact .error e _

theorem test (b : Bool) (e : ε) (a : α) :
    Reports (if b then .error e else .ok a) (if b then [e] else []) := by
  simpa using guard b e (.ok a)

-- Checks of the items of a list, one after another.
theorem mapM {f : α → Except ε β} {g : α → List ε} {l : List α}
    (h : ∀ a ∈ l, Reports (f a) (g a)) : Reports (l.mapM f) (l.flatMap g) := by
  induction l
  case nil => exact .ok []
  case cons a l hi =>
    rw [List.mapM_cons, List.flatMap_cons]
    refine (h a List.mem_cons_self).bind fun b _ => ?_
    rw [← List.append_nil (l.flatMap g)]
    exact (hi fun a' ha' => h a' (List.mem_cons_of_mem a ha')).bind fun bs _ => .ok (b :: bs)

-- Checks of items that stand beside what the defects are read off.
theorem forM {γ : Type} {f : β → Except ε Unit} {g : γ → List ε} {l : List γ} {r : List β}
    (h : List.Forall₂ (fun c b => Reports (f b) (g c)) l r) : Reports (r.forM f) (l.flatMap g) := by
  induction h
  case nil => exact .ok ()
  case cons h _ hi =>
    rw [List.forM_eq_forM, List.forM_cons, List.flatMap_cons]
    exact h.bind fun _ _ => hi

end Reports

section Results

variable {ε α β : Type}

theorem bind_eq_ok_iff {x : Except ε α} {f : α → Except ε β} {b : β} :
    x >>= f = .ok b ↔ ∃ a, x = .ok a ∧ f a = .ok b := by
  cases x <;> simp [bind, Except.bind]

theorem map_eq_ok_iff {x : Except ε α} {f : α → β} {b : β} :
    x.map f = .ok b ↔ ∃ a, x = .ok a ∧ f a = b := by
  cases x <;> simp [Except.map]

-- The results of checks that all succeed stand beside what was checked.
theorem mapM_eq_ok_iff {f : α → Except ε β} {l : List α} {r : List β} :
    l.mapM f = .ok r ↔ List.Forall₂ (fun a b => f a = .ok b) l r := by
  induction l generalizing r
  case nil => simp [pure, Except.pure, eq_comm]
  case cons a l hi =>
    simp only [List.mapM_cons, bind_eq_ok_iff, hi, List.forall₂_cons_left_iff]
    constructor
    · rintro ⟨b, hb, bs, hbs, ⟨⟩⟩
      exact ⟨b, bs, hb, hbs, rfl⟩
    · rintro ⟨b, bs, hb, hbs, rfl⟩
      exact ⟨b, hb, bs, hbs, rfl⟩

end Results
end ChainHost
