import ChainHost.Proofs.Logging.Panic
import ChainHost.Proofs.Logging.Steps
import ChainHost.Proofs.Session.Audit
import ChainHost.Proofs.Text.Lines

namespace ChainHost

open Logging

namespace Event

-- The texts from outside that the record of an event shows.
def texts : Event → List String
  | loaded ..                      => []
  | registered type                => [type]
  | creating type _                => [type]
  | loggingStarted _ directory     => [directory]
  | panicCaptured location payload => [location, payload]
  | chainStarted chain type        => [chain, type]

-- The number of line feeds in texts.
def breaks (texts : List String) : Nat :=
  (texts.flatMap String.toList).count '\n'

-- The text of records in the file.
def logText (events : List Event) : String :=
  String.join (events.map fun e => e.record ++ "\n")

theorem count_toDigits (n : Nat) : (Nat.toDigits 10 n).count '\n' = 0 := by
  rw [List.count_eq_zero]
  intro h
  exact absurd (Nat.isDigit_of_mem_toDigits (by decide) (by decide) h) (by decide)

theorem count_lowerName (l : Level) : l.lowerName.toList.count '\n' = 0 := by
  cases l <;> rfl

-- What is not from outside has no line feed.
theorem count_record (e : Event) : e.record.toList.count '\n' = breaks e.texts := by
  cases e
  all_goals
    dsimp only [record, message, level, Level.name, version, texts, breaks]
    simp [-List.count_eq_one_of_mem, count_toDigits, count_lowerName]

theorem prefix_record (e : Event) : (e.level.name ++ " event=").toList <+: e.record.toList := by
  cases e
  all_goals
    dsimp only [record, message, level, Level.name]
    simp

theorem toList_logText (events : List Event) :
    (logText events).toList = (events.map fun e => e.record.toList).flatMap (· ++ ['\n']) := by
  simp [logText, String.toList_join, List.flatMap_map]

theorem bytes_logText (events : List Event) :
    (logText events).toUTF8.toList = events.flatMap recordBytes := by
  have hr (e : Event) : recordBytes e =
      (e.record ++ "\n").toList.flatMap String.utf8EncodeChar := Text.toList_toUTF8 _
  simp only [funext hr, Text.toList_toUTF8, logText, String.toList_join, List.flatMap_map,
    List.flatMap_assoc]

-- The text of records, where the texts in `outside` are the only ones that may have line feeds: each
-- record begins a line, and each of those line feeds begins another one.
structure InLines (outside : List String) (events : List Event) : Prop where
  records  : ∀ e ∈ events, (e.level.name ++ " event=").toList <+: e.record.toList
  shown    : ∀ e ∈ events, ∀ t ∈ e.texts, '\n' ∈ t.toList → t ∈ outside
  length   : (Text.lines (logText events).toList).length =
    events.length + breaks (events.flatMap texts)
  unbroken : (∀ t ∈ outside, '\n' ∉ t.toList) →
    Text.lines (logText events).toList = events.map fun e => e.record.toList

theorem count_records (events : List Event) :
    (events.map fun e => e.record.toList).flatten.count '\n' = breaks (events.flatMap texts) := by
  induction events
  case nil => rfl
  case cons e events hi =>
    simp only [List.map_cons, List.flatten_cons, List.count_append, hi, count_record, breaks,
      List.flatMap_cons, List.flatMap_append]

theorem newline_not_mem_record {e : Event} (h : ∀ t ∈ e.texts, '\n' ∉ t.toList) :
    '\n' ∉ e.record.toList := by
  rw [← List.count_eq_zero, count_record, breaks, List.count_eq_zero, List.mem_flatMap]
  rintro ⟨t, ht, hn⟩
  exact h t ht hn

theorem inLines {outside : List String} {events : List Event}
    (h : ∀ e ∈ events, ∀ t ∈ e.texts, '\n' ∈ t.toList → t ∈ outside) : InLines outside events where
  records e _ := e.prefix_record
  shown       := h
  length      := by
    rw [Text.length_lines, toList_logText, Text.count_flatMap, List.length_map, count_records]
  unbroken    := by
    intro hn
    rw [toList_logText]
    refine Text.lines_flatMap ?_
    rintro _ hr
    obtain ⟨e, he, rfl⟩ := List.mem_map.1 hr
    exact newline_not_mem_record fun t ht hb => hn t (h e he t ht hb) hb

end Event

namespace Session

variable {σ τ η ν π : Type}

-- What may happen where all factories are those of makers.
inductive QuietActivity (m : Type → Type) (η ν : Type) where
  | logging (s : Settings)
  | step (q : QuietStep m η ν)
  | panic (p : Panic)

-- The names of types that a step gives.
def QuietStep.names {m : Type → Type} : QuietStep m η ν → List String
  | registration g    => [g.name]
  | creation _ type _ => [type]
  | use ..            => []

namespace QuietActivity

-- The names of types, the directories and the places that activities give.
def texts {m : Type → Type} : QuietActivity m η ν → List String
  | logging s => [s.directory]
  | step q    => q.names
  | panic p   => [p.place]

variable (π) in
def activity {m : Type → Type} [Monad m] [PatternLanguage π] :
    QuietActivity m η ν → Activity m η ν
  | logging s => .logging s
  | step q    => .session (q.step π)
  | panic p   => .panic p

end QuietActivity

-- A step of the logger that shows line feeds of the texts in `outside` alone.
def Shows (outside : List String) : Logging.Step → Prop
  | .request s => s.directory ∈ outside
  | .report e  => ∀ t ∈ e.texts, '\n' ∈ t.toList → t ∈ outside

-- A panic shows line feeds of its place alone.
theorem shows_panic {outside : List String} {p : Panic} (h : p.place ∈ outside) :
    Shows outside (.report p.event) := by
  intro t ht hn
  rcases List.mem_cons.1 ht with rfl | ht
  case inl => exact h
  case inr =>
    obtain rfl := List.mem_singleton.1 ht
    rw [String.toList_ofList] at hn
    exact absurd hn (lineOf_singleLine _ _).unbroken.1

section Steps

variable [PatternLanguage π] {embed : Declared π → ν}

theorem texts_of_mem_build {host : η} {code : String} {e : Event}
    (h : e ∈ (Declared.build (π := π) host code).2) : e.texts = [] := by
  unfold Declared.build at h
  split at h
  case h_1 =>
    cases List.mem_singleton.1 h
    rfl
  case h_2 => cases h

theorem run_factory (maker : Maker (StateM σ) η ν) (host : η) (code : String) (x : σ) :
    ∃ result events y, (maker.factory π host code).run x = pure ((result, events), y) ∧
      ∀ e ∈ events, e.texts = [] := by
  obtain ⟨result, codes, y, hm⟩ :
      ∃ result codes y, (maker host code).run x = pure ((result, codes), y) := ⟨_, _, _, rfl⟩
  refine ⟨result, codes.flatMap fun code => (Declared.build (π := π) host code).2, y, ?run, ?texts⟩
  case run =>
    simp only [Maker.factory, StateT.run_bind, hm, pure_bind]
    rfl
  case texts =>
    intro e he
    obtain ⟨code, -, he⟩ := List.mem_flatMap.1 he
    exact texts_of_mem_build he

theorem run_create {known : List (String × Maker (StateM σ) η ν)} {r : Registry (StateM σ) η ν}
    (h : Knows π r known) (host : η) (type code : String) (x : σ) :
    ∃ result events y, (r.create host type code).run x = pure ((result, events), y) ∧
      ∀ e ∈ events, ∀ t ∈ e.texts, t = type := by
  unfold Registry.create
  rw [h.factory?_eq]
  cases Json.findMember? type known
  case none => exact ⟨_, [], x, rfl, by simp⟩
  case some maker =>
    obtain ⟨result, events, y, hf, he⟩ := run_factory (π := π) maker host code x
    simp only [Option.map_some, StateT.run_bind, hf, pure_bind]
    refine ⟨result, _, y, rfl, fun e hm t ht => ?_⟩
    rcases List.mem_cons.1 hm with rfl | hm
    case inl => exact List.mem_singleton.1 ht
    case inr => exact absurd (he e hm ▸ ht) List.not_mem_nil

theorem events_of_perform {r r' : Registry (StateM σ) η ν} {g : QuietRegistration (StateM σ) η ν}
    {result : Except RegistrationError Event}
    (hp : r.perform embed (g.registration π) = (result, r')) :
    ∀ e ∈ (Answer.registration (ν := ν) result).events, e.texts = [g.name] := by
  rcases Registry.perform_cases embed r (g.registration π) with ⟨e, he, -⟩ | ⟨f, r'', ho, -⟩
  case inl =>
    cases hp.symm.trans he
    simp [Answer.events]
  case inr =>
    cases hp.symm.trans ho
    simp [Answer.events, Event.texts, QuietRegistration.name_registration]

variable [Nucleus ν]

-- A step of a session shows the names that it gives.
theorem run_take {known : List (String × Maker (StateM σ) η ν)} {s : Session (StateM σ) η ν}
    (h : Knows π s.registry known) (q : QuietStep (StateM σ) η ν) (x : σ) :
    ∃ result s' known' y, (s.take embed (q.step π)).run x = pure ((result, s'), y) ∧
      Knows π s'.registry known' ∧ ∀ e ∈ result.events, ∀ t ∈ e.texts, t ∈ q.names := by
  cases q
  case registration g =>
    obtain ⟨result, r', hp, -, hk⟩ := perform_eq_audit embed h g
    simp only [QuietStep.step, take, Registry.serve, hp, pure_bind]
    refine ⟨_, _, _, x, rfl, hk, fun e he t ht => ?_⟩
    rwa [events_of_perform hp e he] at ht
  case creation host type code =>
    obtain ⟨result, events, y, hc, he⟩ := run_create h host type code x
    simp only [QuietStep.step, take, Registry.serve, bind_assoc, StateT.run_bind, hc, pure_bind]
    exact ⟨_, _, _, y, rfl, h, fun e hm t ht => List.mem_singleton.2 (he e hm t ht)⟩
  case use slot u =>
    simp only [QuietStep.step, take]
    split
    case h_1 => exact ⟨_, _, _, x, rfl, h, List.forall_mem_nil _⟩
    case h_2 => exact ⟨_, _, _, x, rfl, h, List.forall_mem_nil _⟩

variable (embed) in
theorem shows_logged {outside : List String} (activities : List (QuietActivity (StateM σ) η ν))
    (ho : ∀ a ∈ activities, a.texts ⊆ outside) {known : List (String × Maker (StateM σ) η ν)}
    {s : Session (StateM σ) η ν} (h : Knows π s.registry known) (x : σ) :
    ∃ steps y, (s.logged embed (activities.map (·.activity π))).run x = pure (steps, y) ∧
      ∀ step ∈ steps, Shows outside step := by
  induction activities generalizing s known x
  case nil => exact ⟨[], x, rfl, by simp⟩
  case cons a activities hi =>
    obtain ⟨ha, hrest⟩ := List.forall_mem_cons.1 ho
    cases a
    case logging t =>
      obtain ⟨steps, y, hl, hs⟩ := hi hrest h x
      have hrun : (s.logged embed (.logging t :: activities.map (·.activity π))).run x =
          pure (.request t :: steps, y) := by
        rw [logged, StateT.run_bind, hl, pure_bind]
        rfl
      exact ⟨_, y, hrun, List.forall_mem_cons.2 ⟨ha List.mem_cons_self, hs⟩⟩
    case panic p =>
      obtain ⟨steps, y, hl, hs⟩ := hi hrest h x
      have hrun : (s.logged embed (.panic p :: activities.map (·.activity π))).run x =
          pure (.report p.event :: steps, y) := by
        rw [logged, StateT.run_bind, hl, pure_bind]
        rfl
      have hp : p.place ∈ outside := ha List.mem_cons_self
      exact ⟨_, y, hrun, List.forall_mem_cons.2 ⟨shows_panic hp, hs⟩⟩
    case step q =>
      obtain ⟨result, s', known', z, ht, hk, he⟩ := run_take h q x
      obtain ⟨steps, y, hl, hs⟩ := hi hrest hk z
      have hrun : (s.logged embed (.session (q.step π) :: activities.map (·.activity π))).run
          x = pure (result.events.map .report ++ steps, y) := by
        rw [logged, StateT.run_bind, ht, pure_bind]
        dsimp only
        rw [StateT.run_bind, hl, pure_bind]
        rfl
      refine ⟨_, y, hrun, List.forall_mem_append.2 ⟨?_, hs⟩⟩
      rintro _ hm
      obtain ⟨e, hevent, rfl⟩ := List.mem_map.1 hm
      exact fun t ht _ => ha (he e hevent t ht)

end Steps

theorem texts_of_reported {outside : List String} {steps : List Logging.Step}
    (h : ∀ step ∈ steps, Shows outside step) :
    ∀ e ∈ Logging.Step.reported steps, ∀ t ∈ e.texts, '\n' ∈ t.toList → t ∈ outside := by
  induction steps
  case nil => simp [Logging.Step.reported]
  case cons step steps hi =>
    obtain ⟨hs, hrest⟩ := List.forall_mem_cons.1 h
    cases step
    case request => exact hi hrest
    case report  => exact List.forall_mem_cons.2 ⟨hs, hi hrest⟩

-- Either logging does not start, and then nothing is recorded; or the log grows by the records of the
-- events from the start on, in lines.
theorem log_is_in_lines [Nucleus ν] [PatternLanguage π] (embed : Declared π → ν)
    (activities : List (QuietActivity (StateM σ) η ν)) (x : σ) (w : World τ) (z : τ) :
    ∃ steps y,
      (empty.logged embed (activities.map (QuietActivity.activity π))).run x = (steps, y) ∧
      ((∃ failures after, Refused w z steps failures after ∧
          (w.system.takeSteps .idle steps).run z = ((failures, .idle), after)) ∨
        ∃ before s later failures idle started events, steps = before ++ .request s :: later ∧
          Refused w z before failures idle ∧ w.startLogging idle s = (.ok (), started) ∧
          events = (.loggingStarted s.level s.directory ::
            Logging.Step.reported later).filter (fun e => e.level ∈ s.level.through) ∧
          Event.InLines (activities.flatMap QuietActivity.texts) events ∧
          ∀ {ρ : Type} (v : w.LogView s ρ), v.ready started →
            v.log ((w.system.takeSteps .idle steps).run z).2 =
              v.log started ++ (Event.logText events).toUTF8.toList) := by
  have hempty : Knows π (empty : Session (StateM σ) η ν).registry [] := .nil
  have ho : ∀ a ∈ activities, a.texts ⊆ activities.flatMap QuietActivity.texts :=
    fun a ha t ht => List.mem_flatMap.2 ⟨a, ha, ht⟩
  obtain ⟨steps, y, hl, hs⟩ := shows_logged embed activities ho hempty x
  refine ⟨steps, y, hl, ?_⟩
  rcases refused_or_started w z steps with
    ⟨failures, after, hr⟩ | ⟨before, s, later, failures, idle, started, rfl, hr, hstart⟩
  case inl => exact .inl ⟨failures, after, hr, hr.run_takeSteps⟩
  case inr =>
    refine .inr ⟨before, s, later, failures, idle, started, _, rfl, hr, hstart, rfl,
      Event.inLines ?shown, fun v hv => ?log⟩
    case log =>
      have hrun := hr.run_takeSteps_append (run_takeSteps_started hstart later)
      have hafter : ((w.system.takeSteps .idle (before ++ .request s :: later)).run z).2 =
          w.records s started (.loggingStarted s.level s.directory :: Logging.Step.reported later) :=
        congrArg Prod.snd hrun
      rw [hafter, Event.bytes_logText]
      exact (v.recordEach hv _).1
    case shown =>
      intro e he
      obtain ⟨hrequest, hlater⟩ := List.forall_mem_cons.1 (List.forall_mem_append.1 hs).2
      rcases List.mem_cons.1 (List.mem_filter.1 he).1 with rfl | he
      case inl =>
        intro t ht _
        cases List.mem_singleton.1 ht
        exact hrequest
      case inr => exact texts_of_reported hlater e he

-- A type whose name has a line feed, and a panic whose payload has one.
def brokenActivities : List (QuietActivity (StateM Unit) Unit (Declared Pattern)) :=
  [.logging ⟨.info, "/log"⟩, .step (.registration (.factory "a\nb" (.loader id))),
    .panic ⟨some ("e", 7), .text "c\nd"⟩]

theorem log_is_in_lines_but_for_names :
    (((((Disk.system "/").takeSteps .idle
        [.request ⟨.info, "/log"⟩, .report (.registered "a\nb"),
          .report (.panicCaptured "e:7" "c d")]).run (.directory [])).2.content?
            ["log", Disk.logFile]).getD [] =
        ("INFO event=logging_init module=logging status=ok level=info log_dir=/log version=0.1.0\n" ++
          "INFO event=nucleus_register module=registry status=ok type=a\nb\n" ++
          "ERROR event=panic_captured module=logging status=error location=e:7 payload=c d\n"
            ).toUTF8.toList) ∧
      (Text.lines (Event.logText [.loggingStarted .info "/log", .registered "a\nb",
        .panicCaptured "e:7" "c d"]).toList).length = 3 + 1 := by
  have hrun : (empty.logged id (brokenActivities.map (QuietActivity.activity Pattern))).run () =
      ([.request ⟨.info, "/log"⟩, .report (.registered "a\nb"),
        .report (.panicCaptured "e:7" "c d")], ()) :=
    rfl
  have hstart : (Disk.world "/").startLogging (.directory []) ⟨.info, "/log"⟩ =
      (.ok (), .directory [("log", .directory [])]) := by cbv
  have hway : (Disk.directory [("log", .directory [])]).locate "/" "/log" = .ok ["log"] := by cbv
  obtain ⟨steps, y, hl, h⟩ := log_is_in_lines id brokenActivities () (Disk.world "/") (.directory [])
  cases hrun.symm.trans hl
  rcases h with ⟨failures, after, hr, -⟩ |
    ⟨before, s, later, failures, idle, started, events, he, hr, hs, hevents, hlines, hlog⟩
  case inl =>
    cases hr
    case request hs _ => cases hstart.symm.trans hs
  case inr =>
    obtain ⟨-, rfl, rfl, rfl, rfl⟩ := hr.first_unique hs (.nil _) hstart he.symm
    have hready : (Disk.logView "/" ⟨.info, "/log"⟩ ["log"]).ready
        (.directory [("log", .directory [])]) := ⟨⟨hway, _, rfl⟩, by rintro es ⟨⟩⟩
    have hnames : events =
        [.loggingStarted .info "/log", .registered "a\nb", .panicCaptured "e:7" "c d"] := hevents
    have hcontent := hlog (Disk.logView "/" ⟨.info, "/log"⟩ ["log"]) hready
    have hlength := hlines.length
    rw [hnames] at hcontent hlength
    exact ⟨hcontent, hlength⟩

end Session
end ChainHost
