import ChainHost.Proofs.System
import ChainHost.Proofs.Reports
import ChainHost.Proofs.Logging.Settings

namespace ChainHost.Logging

namespace Step

-- The settings that are asked for.
def requested : List Step → List Settings
  | []                 => []
  | request s :: steps => s :: requested steps
  | report _ :: steps  => requested steps

-- The events that are reported.
def reported : List Step → List Event
  | []                 => []
  | request _ :: steps => reported steps
  | report e :: steps  => e :: reported steps

theorem requested_append (before after : List Step) :
    requested (before ++ after) = requested before ++ requested after := by
  induction before
  case nil => rfl
  case cons step before hi => cases step <;> simp [requested, hi]

end Step

open Step

-- How a request is answered once logging has started with active settings. Directories are the same
-- if they have the same components.
inductive Compared (active requested : Settings) : Except StartError Unit → Prop
  | same
      (directory : Path.components active.directory = Path.components requested.directory)
      (level : active.level = requested.level) :
      Compared active requested (.ok ())
  | otherDirectory
      (directory : Path.components active.directory ≠ Path.components requested.directory) :
      Compared active requested (.error (.otherDirectory active.directory requested.directory))
  | otherLevel
      (directory : Path.components active.directory = Path.components requested.directory)
      (level : active.level ≠ requested.level) :
      Compared active requested (.error (.otherLevel active.level requested.level))

section Settings

variable {s active requested : Settings} {level directory : String}

theorem isAbsolute_of_ofTexts (h : Settings.ofTexts level directory = .ok s) :
    Path.isAbsolute s.directory = true := by
  cases Settings.ofTexts_eq_iff.1 h
  case made hp => exact beq_iff_eq.2 hp

theorem compared_agree (ha : Path.isAbsolute active.directory = true)
    (hr : Path.isAbsolute requested.directory = true) :
    Compared active requested (Logger.agree active requested) := by
  have hs : active.sameDirectory requested = true ↔
      Path.components active.directory = Path.components requested.directory := by
    simp [Settings.sameDirectory, Path.same, ha, hr]
  unfold Logger.agree
  split
  case isTrue hd =>
    apply Compared.otherDirectory
    intro he
    rw [hs.2 he] at hd
    cases hd
  case isFalse hd =>
    have he := hs.1 (by simpa using hd)
    split
    case isTrue hl  => exact .otherLevel he hl
    case isFalse hl => exact .same he (by simpa using hl)

end Settings

section Run

variable {σ : Type} {w : World σ} {x y z : σ} {steps before after : List Step}
variable {answers more failures : List (Except StartError Unit)}

-- Steps without a start that succeeds: each request tries to start once, with its own settings, and
-- is told why that fails. Nothing is recorded.
inductive Refused (w : World σ) : σ → List Step → List (Except StartError Unit) → σ → Prop
  | nil (x : σ) : Refused w x [] [] x
  | request {x y z : σ} {s : Settings} {failure : StartFailure} {steps : List Step}
      {answers : List (Except StartError Unit)}
      (start : w.startLogging x s = (.error failure, y)) (rest : Refused w y steps answers z) :
      Refused w x (.request s :: steps) (.error (.failed s failure) :: answers) z
  | report {x y : σ} {e : Event} {steps : List Step} {answers : List (Except StartError Unit)}
      (rest : Refused w x steps answers y) :
      Refused w x (.report e :: steps) answers y

theorem run_takeSteps_request {l l' l'' : Logger} {s : Settings} {answer : Except StartError Unit}
    (hr : (w.system.requestLogging l s).run x = ((answer, l'), y))
    (ht : (w.system.takeSteps l' steps).run y = ((answers, l''), z)) :
    (w.system.takeSteps l (.request s :: steps)).run x = ((answer :: answers, l''), z) := by
  have hr : (w.system.requestLogging l s).run x = pure ((answer, l'), y) := hr
  have ht : (w.system.takeSteps l' steps).run y = pure ((answers, l''), z) := ht
  rw [System.takeSteps, StateT.run_bind, hr, pure_bind, StateT.run_bind, ht]
  rfl

theorem run_takeSteps_report {l : Logger} {e : Event}
    (hr : (w.system.recordAll l [e]).run x = ((), y)) :
    (w.system.takeSteps l (.report e :: steps)).run x = (w.system.takeSteps l steps).run y := by
  have hr : (w.system.recordAll l [e]).run x = pure ((), y) := hr
  rw [System.takeSteps, StateT.run_bind, hr, pure_bind]

-- What comes after steps that were refused finds an idle logger.
theorem Refused.run_takeSteps_append (h : Refused w x before failures y) {l : Logger}
    (ht : (w.system.takeSteps .idle after).run y = ((answers, l), z)) :
    (w.system.takeSteps .idle (before ++ after)).run x = ((failures ++ answers, l), z) := by
  induction h
  case nil => exact ht
  case request start _ hi =>
    exact run_takeSteps_request (World.run_requestLogging_of_error start) (hi ht)
  case report hi => exact (run_takeSteps_report (w.run_recordAll_idle _ _)).trans (hi ht)

theorem Refused.run_takeSteps (h : Refused w x steps failures y) :
    (w.system.takeSteps .idle steps).run x = ((failures, .idle), y) := by
  have hnil : (w.system.takeSteps .idle []).run y = (([], .idle), y) := rfl
  simpa using h.run_takeSteps_append hnil

-- There is only one first start that succeeds.
theorem Refused.first_unique {s s' : Settings} {before' after' : List Step}
    {failures' : List (Except StartError Unit)} {y' z' : σ} (h : Refused w x before failures y)
    (hs : w.startLogging y s = (.ok (), z)) (h' : Refused w x before' failures' y')
    (hs' : w.startLogging y' s' = (.ok (), z'))
    (he : before ++ .request s :: after = before' ++ .request s' :: after') :
    failures = failures' ∧ y = y' ∧ z = z' ∧ s = s' ∧ after = after' := by
  induction h generalizing before' failures'
  case nil =>
    cases h'
    case nil =>
      cases he
      cases hs.symm.trans hs'
      exact ⟨rfl, rfl, rfl, rfl, rfl⟩
    case request start rest =>
      cases he
      cases hs.symm.trans start
    case report => cases he
  case request start rest hi =>
    cases h'
    case nil =>
      cases he
      cases start.symm.trans hs'
    case request start' rest' =>
      obtain ⟨hstep, htail⟩ := List.cons.inj he
      cases hstep
      cases start.symm.trans start'
      obtain ⟨rfl, hrest⟩ := hi hs rest' htail
      exact ⟨rfl, hrest⟩
    case report => cases he
  case report rest hi =>
    cases h'
    case nil     => cases he
    case request => cases he
    case report rest' =>
      exact hi hs rest' (List.cons.inj he).2

-- Once logging has started, all that steps do is to record what they report.
theorem run_takeSteps_active (active : Settings) (steps : List Step) (x : σ) :
    (w.system.takeSteps ⟨some active⟩ steps).run x =
      (((requested steps).map (Logger.agree active), ⟨some active⟩),
        w.records active x (reported steps)) := by
  induction steps generalizing x
  case nil => rfl
  case cons step steps hi =>
    cases step
    case request s =>
      exact run_takeSteps_request (World.run_requestLogging_active active s x) (hi x)
    case report e =>
      have hr := w.run_recordAll_active active [e] x
      rw [run_takeSteps_report hr, hi, reported, ← List.singleton_append (l := reported steps),
        w.records_append]
      rfl

theorem run_takeSteps_started {s : Settings} (hs : w.startLogging x s = (.ok (), y))
    (after : List Step) :
    (w.system.takeSteps .idle (.request s :: after)).run x =
      ((.ok () :: (requested after).map (Logger.agree s), ⟨some s⟩),
        w.records s y (.loggingStarted s.level s.directory :: reported after)) := by
  have ht := run_takeSteps_active (w := w) s after
    (w.records s y [.loggingStarted s.level s.directory])
  rw [← w.records_append, List.singleton_append] at ht
  exact run_takeSteps_request (World.run_requestLogging_of_ok hs) ht

-- Either no start succeeds, or there is a first one that does.
theorem refused_or_started (w : World σ) (x : σ) (steps : List Step) :
    (∃ failures y, Refused w x steps failures y) ∨
      ∃ before s after failures y z, steps = before ++ .request s :: after ∧
        Refused w x before failures y ∧ w.startLogging y s = (.ok (), z) := by
  induction steps generalizing x
  case nil => exact .inl ⟨[], x, .nil x⟩
  case cons step steps hi =>
    cases step
    case report e =>
      rcases hi x with ⟨failures, y, hr⟩ | ⟨before, s, after, failures, y, z, rfl, hr, hs⟩
      case inl => exact .inl ⟨failures, y, .report hr⟩
      case inr => exact .inr ⟨_, s, after, failures, y, z, rfl, .report hr, hs⟩
    case request t =>
      obtain ⟨result, x', ht⟩ : ∃ result x', w.startLogging x t = (result, x') := ⟨_, _, rfl⟩
      cases result
      case ok => exact .inr ⟨[], t, steps, [], x, x', rfl, .nil x, ht⟩
      case error failure =>
        rcases hi x' with ⟨failures, y, hr⟩ | ⟨before, s, after, failures, y, z, rfl, hr, hs⟩
        case inl => exact .inl ⟨_, y, .request ht hr⟩
        case inr => exact .inr ⟨_, s, after, _, y, z, rfl, .request ht hr, hs⟩

theorem forall₂_compared {s : Settings} {requests : List Settings}
    (hs : Path.isAbsolute s.directory = true)
    (hr : ∀ t ∈ requests, Path.isAbsolute t.directory = true) :
    List.Forall₂ (Compared s) requests (requests.map (Logger.agree s)) := by
  induction requests
  case nil => exact .nil
  case cons t requests hi =>
    obtain ⟨ht, hrest⟩ := List.forall_mem_cons.1 hr
    exact .cons (compared_agree hs ht) (hi hrest)

-- The first start that succeeds fixes the settings. Before it each request tries once; after it none
-- does, and the world only changes by records for those settings, of the levels that theirs lets
-- through. Where a log can be seen, it grows by these records, and all else stays as it is.
theorem first_start_is_final (w : World σ) (x : σ) (steps : List Step)
    (h : ∀ s ∈ requested steps, ∃ level directory, Settings.ofTexts level directory = .ok s) :
    (∃ failures y, Refused w x steps failures y ∧
      (w.system.takeSteps .idle steps).run x = ((failures, .idle), y)) ∨
    ∃ before s after failures answers y z admitted, steps = before ++ .request s :: after ∧
      Refused w x before failures y ∧ w.startLogging y s = (.ok (), z) ∧
      List.Forall₂ (Compared s) (requested after) answers ∧
      admitted = (.loggingStarted s.level s.directory :: reported after).filter
        (fun e => e.level ∈ s.level.through) ∧
      (w.system.takeSteps .idle steps).run x =
        ((failures ++ .ok () :: answers, ⟨some s⟩), w.recordEach s z admitted) ∧
      ∀ {ρ : Type} (v : w.LogView s ρ), v.ready z →
        v.log (w.recordEach s z admitted) = v.log z ++ admitted.flatMap Event.recordBytes ∧
          v.rest (w.recordEach s z admitted) = v.rest z := by
  rcases refused_or_started w x steps with
    ⟨failures, y, hr⟩ | ⟨before, s, after, failures, y, z, rfl, hr, hs⟩
  case inl => exact .inl ⟨failures, y, hr, hr.run_takeSteps⟩
  case inr =>
    have habs : ∀ t ∈ s :: requested after, Path.isAbsolute t.directory = true := by
      intro t ht
      rw [requested_append] at h
      obtain ⟨level, directory, ho⟩ := h t (List.mem_append_right _ ht)
      exact isAbsolute_of_ofTexts ho
    obtain ⟨habs, hrest⟩ := List.forall_mem_cons.1 habs
    exact .inr ⟨before, s, after, failures, _, y, z, _, rfl, hr, hs, forall₂_compared habs hrest, rfl,
      hr.run_takeSteps_append (run_takeSteps_started hs after), fun v hv => v.recordEach hv _⟩

section Example

-- The first request asks for a directory below a file. Of the later ones one has the active directory
-- written in another way, and two ask for something else. Of the events that are reported the first
-- comes too early, and the second is of a level that is not let through.
def conflictingSteps : List Step :=
  [.request ⟨.info, "/f/x"⟩, .report (.registered "early"), .request ⟨.info, "/log"⟩,
    .request ⟨.debug, "//log/./"⟩, .request ⟨.error, "/log/../f"⟩, .request ⟨.info, "/log/"⟩,
    .report (.creating "quiet" 0), .report (.registered "late")]

def diskWithFile : Disk :=
  .directory [("f", .file [])]

def diskAfterFailure : Disk :=
  ((Disk.world "/").startLogging diskWithFile ⟨.info, "/f/x"⟩).2

def diskAfterStart : Disk :=
  ((Disk.world "/").startLogging diskAfterFailure ⟨.info, "/log"⟩).2

theorem first_start_is_final_despite_conflicts :
    (∀ s ∈ requested conflictingSteps,
      ∃ level directory, Settings.ofTexts level directory = .ok s) ∧
    Refused (Disk.world "/") diskWithFile [.request ⟨.info, "/f/x"⟩, .report (.registered "early")]
      [.error (.failed ⟨.info, "/f/x"⟩ (.noDirectory .notDirectory))] diskAfterFailure ∧
    (Disk.world "/").startLogging diskAfterFailure ⟨.info, "/log"⟩ = (.ok (), diskAfterStart) ∧
    List.Forall₂ (Compared ⟨.info, "/log"⟩)
      [⟨.debug, "//log/./"⟩, ⟨.error, "/log/../f"⟩, ⟨.info, "/log/"⟩]
      [.error (.otherLevel .info .debug), .error (.otherDirectory "/log" "/log/../f"), .ok ()] ∧
    ((((Disk.system "/").takeSteps .idle conflictingSteps).run diskWithFile).2.content?
        ["log", Disk.logFile]).getD [] =
      ("INFO event=logging_init module=logging status=ok level=info log_dir=/log version=0.1.0\n" ++
        "INFO event=nucleus_register module=registry status=ok type=late\n").toUTF8.toList ∧
    (((Disk.system "/").takeSteps .idle conflictingSteps).run diskWithFile).2.content? ["f"] =
      some [] := by
  have hs : ∀ s ∈ requested conflictingSteps,
      ∃ level directory, Settings.ofTexts level directory = .ok s := by
    simp only [conflictingSteps, requested, List.forall_mem_cons]
    exact ⟨⟨"info", "/f/x", by decide +kernel⟩, ⟨"info", "/log", by decide +kernel⟩,
      ⟨"debug", "//log/./", by decide +kernel⟩, ⟨"error", "/log/../f", by decide +kernel⟩,
      ⟨"info", "/log/", by decide +kernel⟩, by simp⟩
  have hrun : (((Disk.world "/").system.takeSteps .idle conflictingSteps).run diskWithFile).1 =
      ([.error (.failed ⟨.info, "/f/x"⟩ (.noDirectory .notDirectory)), .ok (),
        .error (.otherLevel .info .debug), .error (.otherDirectory "/log" "/log/../f"), .ok ()],
        ⟨some ⟨.info, "/log"⟩⟩) := by
    decide +kernel
  have hfailed : Refused (Disk.world "/") diskWithFile
      [.request ⟨.info, "/f/x"⟩, .report (.registered "early")]
      [.error (.failed ⟨.info, "/f/x"⟩ (.noDirectory .notDirectory))] diskAfterFailure :=
    .request (Prod.ext (by decide +kernel) rfl) (.report (.nil _))
  have hstarted : (Disk.world "/").startLogging diskAfterFailure ⟨.info, "/log"⟩ =
      (.ok (), diskAfterStart) := Prod.ext (by decide +kernel) rfl
  rcases first_start_is_final (Disk.world "/") diskWithFile conflictingSteps hs with
    ⟨failures, y, -, hr⟩ |
    ⟨before, s, after, failures, answers, y, z, admitted, he, href, hstart, hc, ha, hr, hview⟩
  case inl =>
    rw [hr] at hrun
    cases hrun
  case inr =>
    obtain ⟨rfl, rfl, rfl, rfl, rfl⟩ := href.first_unique hstart hfailed hstarted he.symm
    obtain ⟨hanswers, -⟩ := Prod.mk.inj ((congrArg Prod.fst hr).symm.trans hrun)
    obtain ⟨-, rfl⟩ := List.cons.inj (List.cons.inj hanswers).2
    obtain ⟨way, hd⟩ := Disk.startLogging_hasDirectory hstart
    have hway : diskAfterStart.locate "/" "/log" = .ok ["log"] := by decide +kernel
    have hnone : diskAfterStart.at? ["log", Disk.logFile] = none := by
      rw [← Option.isNone_iff_eq_none]
      decide +kernel
    cases hway.symm.trans hd.1
    obtain ⟨hlog, hrest⟩ := hview (Disk.logView "/" ⟨.info, "/log"⟩ ["log"])
      ⟨hd, fun es h => nomatch hnone.symm.trans h⟩
    have hafter := congrArg Prod.snd hr
    refine ⟨hs, hfailed, hstarted, hc, ?log, ?file⟩
    case log =>
      rw [Disk.system, hafter]
      refine hlog.trans ?_
      rw [ha]
      decide +kernel
    case file =>
      have hfile : diskAfterStart.content? ["f"] = some [] := by decide +kernel
      rw [Disk.system, hafter, ← hfile]
      exact congrFun hrest ⟨["f"], by decide⟩

end Example
end Run
end ChainHost.Logging
