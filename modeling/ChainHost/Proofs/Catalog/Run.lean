import Mathlib.Data.List.TakeWhile
import ChainHost.Proofs.Catalog

namespace ChainHost

-- Stages come one after another.
def Stage.rank : Stage → Nat
  | constructed => 0
  | loading     => 1
  | ready       => 2

instance : LE Stage where
  le s s' := s.rank ≤ s'.rank

theorem Stage.le_ready (s : Stage) : s ≤ .ready := by
  cases s <;> decide

theorem schemaOf?_append (is js : List Interface) (name : String) :
    schemaOf? (is ++ js) name = (schemaOf? is name).or (schemaOf? js name) := by
  simp only [schemaOf?, List.find?_append, Option.map_or]

namespace Catalog

variable {c : Catalog} {actions : List Action}

-- The interfaces that a run asks to expose, whether they are taken or not.
def exposures (actions : List Action) : List Interface :=
  actions.filterMap fun
    | .expose i => some i
    | .close    => none

-- The interfaces that a run asks to expose before it closes the catalog.
def openExposures (actions : List Action) : List Interface :=
  exposures (actions.takeWhile (· ≠ .close))

@[simp]
theorem openExposures_nil : openExposures [] = [] :=
  rfl

@[simp]
theorem openExposures_close : openExposures (.close :: actions) = [] :=
  rfl

theorem openExposures_expose (i : Interface) :
    openExposures (.expose i :: actions) = i :: openExposures actions :=
  rfl

@[simp]
theorem after_nil : c.after [] = c :=
  rfl

@[simp]
theorem after_cons (a : Action) : c.after (a :: actions) = (c.perform a).2.after actions :=
  rfl

theorem after_append (more : List Action) :
    c.after (actions ++ more) = (c.after actions).after more :=
  List.foldl_append

theorem openExposures_of_not_mem (h : .close ∉ actions) :
    openExposures actions = exposures actions := by
  have he : actions.takeWhile (· ≠ .close) = actions :=
    List.takeWhile_eq_self_iff.2 fun a ha => decide_eq_true fun hc => h (hc ▸ ha)
  rw [openExposures, he]

section Step

variable {i : Interface}

theorem perform_expose_of_closed (h : c.closed) :
    c.perform (.expose i) = (.error (.exposureClosed i.name), c) := by
  simp only [perform, expose_of_closed h]

theorem perform_expose_of_mem (h : c.closed = false)
    (hm : i.name ∈ c.interfaces.map Interface.name) :
    c.perform (.expose i) = (.error (.alreadyExposed i.name), c) := by
  simp only [perform, expose, h, Bool.false_eq_true, if_false, dif_pos hm]

theorem perform_expose_of_not_mem (h : c.closed = false)
    (hm : i.name ∉ c.interfaces.map Interface.name) :
    ∃ d, c.perform (.expose i) = (.ok (), d) ∧ d.closed = false ∧
      d.interfaces = c.interfaces ++ [i] := by
  simp only [perform, expose, h, Bool.false_eq_true, if_false, dif_neg hm]
  exact ⟨_, rfl, rfl, rfl⟩

-- Exposing a name once more does not change what is found.
theorem or_schemaOf?_of_mem (hm : i.name ∈ c.interfaces.map Interface.name) (name : String) :
    (c.schemaOf? name).or (ChainHost.schemaOf? [i] name) = c.schemaOf? name := by
  cases hs : c.schemaOf? name
  case some s => rfl
  case none =>
    have hne : i.name ≠ name := fun he => schemaOf?_eq_none_iff.1 hs (he ▸ hm)
    simp [ChainHost.schemaOf?, hne]

theorem perform_of_closed (h : c.closed) (a : Action) : (c.perform a).2 = c := by
  cases a
  case expose i => rw [perform_expose_of_closed h]
  case close    => cases c; cases h; rfl

theorem closed_perform (c : Catalog) (a : Action) :
    (c.perform a).2.closed = (c.closed || decide (a = .close)) := by
  cases a
  case close => simp [perform, close]
  case expose i =>
    simp only [perform]
    split
    case h_1 d hd => simp [expose_eq_ok hd]
    case h_2      => simp

theorem stage_of_open (h : c.closed = false) :
    c.stage = if c.interfaces.isEmpty then .constructed else .loading := by
  simp [stage, h]

end Step

section Run

theorem closed_after (c : Catalog) (actions : List Action) :
    (c.after actions).closed = (c.closed || decide (.close ∈ actions)) := by
  induction actions generalizing c
  case nil => simp
  case cons a rest hi =>
    rw [after_cons, hi, closed_perform, Bool.or_assoc]
    simp [eq_comm]

theorem after_of_closed (h : c.closed) (actions : List Action) : c.after actions = c := by
  induction actions
  case nil            => rfl
  case cons a rest hi => rw [after_cons, perform_of_closed h, hi]

-- The names that are known already keep their interfaces; of the others the first one counts.
theorem interfaces_after (h : c.closed = false) (actions : List Action) :
    (c.after actions).interfaces = c.interfaces ++
      ((openExposures actions).filter (·.name ∉ c.interfaces.map Interface.name)).eraseDupsBy
        fun i j => i.name == j.name := by
  induction actions generalizing c
  case nil => simp
  case cons a rest hi =>
    cases a
    case close =>
      rw [after_cons, after_of_closed rfl]
      simp [perform]
    case expose i =>
      rw [after_cons, openExposures_expose, List.filter_cons]
      by_cases hm : i.name ∈ c.interfaces.map Interface.name
      case pos => rw [perform_expose_of_mem h hm, hi h, if_neg (by simpa using hm)]
      case neg =>
        obtain ⟨d, hd, hc, hl⟩ := perform_expose_of_not_mem h hm
        rw [hd, hi hc, hl, if_pos (by simpa using hm), List.eraseDupsBy_cons, List.filter_filter,
          List.append_assoc, List.singleton_append]
        congr 3
        refine List.filter_congr fun j _ => ?_
        rw [List.map_append, Bool.eq_iff_iff]
        simp only [List.mem_append, decide_eq_true_eq, Bool.and_eq_true]
        simp [and_comm]

theorem schemaOf?_after (h : c.closed = false) (actions : List Action) (name : String) :
    (c.after actions).schemaOf? name =
      (c.schemaOf? name).or (ChainHost.schemaOf? (openExposures actions) name) := by
  induction actions generalizing c
  case nil => simp [ChainHost.schemaOf?]
  case cons a rest hi =>
    cases a
    case close =>
      rw [after_cons, after_of_closed rfl]
      simp [perform, schemaOf?, ChainHost.schemaOf?]
    case expose i =>
      rw [after_cons, openExposures_expose, ← List.singleton_append, schemaOf?_append,
        ← Option.or_assoc]
      by_cases hm : i.name ∈ c.interfaces.map Interface.name
      case pos => rw [perform_expose_of_mem h hm, hi h, or_schemaOf?_of_mem hm]
      case neg =>
        obtain ⟨d, hd, hc, hl⟩ := perform_expose_of_not_mem h hm
        rw [hd, hi hc, schemaOf?, hl, schemaOf?_append, schemaOf?]

theorem stage_le_perform (c : Catalog) (a : Action) : c.stage ≤ (c.perform a).2.stage := by
  cases hc : c.closed
  case true => rw [perform_of_closed hc]; exact Nat.le_refl _
  case false =>
    cases a
    case close => exact c.stage.le_ready
    case expose i =>
      by_cases hm : i.name ∈ c.interfaces.map Interface.name
      case pos => rw [perform_expose_of_mem hc hm]; exact Nat.le_refl _
      case neg =>
        obtain ⟨d, hd, hdc, hl⟩ := perform_expose_of_not_mem hc hm
        have hl' : d.interfaces.isEmpty = false := by simp [hl]
        rw [hd, stage_of_open hc, stage_of_open hdc, hl']
        split <;> decide

theorem stage_le_after (c : Catalog) (actions : List Action) :
    c.stage ≤ (c.after actions).stage := by
  induction actions generalizing c
  case nil            => exact Nat.le_refl _
  case cons a rest hi => exact Nat.le_trans (stage_le_perform c a) (hi _)

end Run

section New

theorem closed_after_empty (actions : List Action) :
    (empty.after actions).closed = decide (.close ∈ actions) :=
  closed_after empty actions

theorem interfaces_after_empty (actions : List Action) :
    (empty.after actions).interfaces =
      (openExposures actions).eraseDupsBy fun i j => i.name == j.name := by
  rw [interfaces_after rfl]
  simp [empty]

theorem schemaOf?_after_empty (actions : List Action) (name : String) :
    (empty.after actions).schemaOf? name = ChainHost.schemaOf? (openExposures actions) name :=
  schemaOf?_after rfl actions name

theorem mem_names_after_empty (actions : List Action) (name : String) :
    name ∈ (empty.after actions).interfaces.map Interface.name ↔
      name ∈ (openExposures actions).map Interface.name := by
  rw [← not_iff_not, ← schemaOf?_eq_none_iff, ← schemaOf?_eq_none_iff, ← schemaOf?_after_empty]
  rfl

theorem perform_expose_after_empty (actions : List Action) (i : Interface) :
    (empty.after actions).perform (.expose i) =
      if .close ∈ actions then (.error (.exposureClosed i.name), empty.after actions)
      else if i.name ∈ (exposures actions).map Interface.name then
        (.error (.alreadyExposed i.name), empty.after actions)
      else (.ok (), empty.after (actions ++ [.expose i])) := by
  have hclosed := closed_after_empty actions
  split
  case isTrue hc => rw [perform_expose_of_closed (hclosed.trans (decide_eq_true hc))]
  case isFalse hc =>
    have ho : (empty.after actions).closed = false := hclosed.trans (decide_eq_false hc)
    rw [← openExposures_of_not_mem hc]
    split
    case isTrue hm => rw [perform_expose_of_mem ho ((mem_names_after_empty ..).2 hm)]
    case isFalse hm =>
      obtain ⟨d, hd, -⟩ := perform_expose_of_not_mem ho ((mem_names_after_empty ..).not.2 hm)
      rw [after_append, after_cons, hd]
      rfl

theorem stage_after_empty (actions : List Action) :
    (empty.after actions).stage =
      if .close ∈ actions then .ready
      else if exposures actions = [] then .constructed
      else .loading := by
  rw [stage, closed_after_empty, interfaces_after_empty]
  by_cases hc : .close ∈ actions
  case pos => simp [hc]
  case neg =>
    rw [openExposures_of_not_mem hc]
    cases exposures actions <;> simp [hc, List.eraseDupsBy_cons]

-- After a run on a new catalog: what it holds and what is found in it, how the next exposure is
-- answered, that closing it again changes nothing, and how far the nucleus has come.
theorem run_keeps_first_exposures (actions : List Action) :
    (empty.after actions).interfaces =
        (openExposures actions).eraseDupsBy (fun i j => i.name == j.name) ∧
      ((empty.after actions).interfaces.map Interface.name).Nodup ∧
      (∀ name, (empty.after actions).schemaOf? name =
        ((openExposures actions).find? fun i => i.name == name).map Interface.schema) ∧
      (∀ i, (empty.after actions).perform (.expose i) =
        if .close ∈ actions then (.error (.exposureClosed i.name), empty.after actions)
        else if i.name ∈ (exposures actions).map Interface.name then
          (.error (.alreadyExposed i.name), empty.after actions)
        else (.ok (), empty.after (actions ++ [.expose i]))) ∧
      (.close ∈ actions → (empty.after actions).perform .close = (.ok (), empty.after actions)) ∧
      ((empty.after actions).stage =
        if .close ∈ actions then .ready
        else if exposures actions = [] then .constructed
        else .loading) ∧
      ∀ more, (empty.after actions).stage ≤ (empty.after (actions ++ more)).stage := by
  refine ⟨interfaces_after_empty actions, (empty.after actions).nodup, schemaOf?_after_empty actions,
    perform_expose_after_empty actions, fun hc => ?_, stage_after_empty actions, fun more => ?_⟩
  · have hclosed : (empty.after actions).closed :=
      (closed_after_empty actions).trans (decide_eq_true hc)
    exact Prod.ext rfl (perform_of_closed hclosed .close)
  · exact after_append more ▸ stage_le_after _ more

-- A run with refusals in between: a name is exposed again, and a function is late.
def refusedRun : List Action :=
  [.expose ⟨"b", .json⟩, .expose ⟨"b", .string⟩, .expose ⟨"a", .string⟩, .close,
    .expose ⟨"c", .json⟩, .close]

theorem run_keeps_first_exposures_despite_refusals :
    .close ∈ refusedRun ∧
      (empty.after refusedRun).interfaces = [⟨"b", .json⟩, ⟨"a", .string⟩] ∧
      (empty.after refusedRun).perform (.expose ⟨"b", .string⟩) =
        (.error (.exposureClosed "b"), empty.after refusedRun) ∧
      (empty.after refusedRun).perform .close = (.ok (), empty.after refusedRun) := by
  have hc : .close ∈ refusedRun := by decide
  obtain ⟨hi, -, -, he, hcl, -⟩ := run_keeps_first_exposures refusedRun
  exact ⟨hc, hi.trans (by decide), (he _).trans (if_pos hc), hcl hc⟩

end New

end Catalog
end ChainHost
