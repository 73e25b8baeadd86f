import ChainHost.System
import ChainHost.Proofs.Storage.Disk

namespace ChainHost

open Logging

-- The levels of the records that a level lets through.
def Logging.Level.through : Level → List Level
  | error => [error]
  | warn  => [error, warn]
  | info  => [error, warn, info]
  | debug => [error, warn, info, debug]
  | trace => [error, warn, info, debug, trace]

theorem Logging.Level.admits_eq (l other : Level) : l.admits other = decide (other ∈ l.through) := by
  cases l <;> cases other <;> decide

-- The bytes that the record of an event is in a log.
def Event.recordBytes (e : Event) : List UInt8 :=
  (e.record ++ "\n").toUTF8.toList

namespace World

variable {σ : Type} (w : World σ)

-- The world after the records of events.
def recordEach (s : Settings) (x : σ) (events : List Event) : σ :=
  events.foldl (fun x e => w.record x s e) x

-- The world after the records of those events that the level lets through.
def records (s : Settings) (x : σ) (events : List Event) : σ :=
  w.recordEach s x (events.filter fun e => e.level ∈ s.level.through)

theorem records_append (s : Settings) (x : σ) (events more : List Event) :
    w.records s x (events ++ more) = w.records s (w.records s x events) more := by
  rw [records, List.filter_append, recordEach, List.foldl_append]
  rfl

theorem run_forM_record (s : Settings) (events : List Event) (x : σ) :
    (events.forM (w.system.record s)).run x = ((), w.recordEach s x events) := by
  induction events generalizing x
  case nil => rfl
  case cons e events hi =>
    rw [List.forM_eq_forM, List.forM_cons]
    exact hi (w.record x s e)

@[simp]
theorem run_recordAll_idle (events : List Event) (x : σ) :
    (w.system.recordAll .idle events).run x = ((), x) :=
  rfl

theorem run_recordAll_active (s : Settings) (events : List Event) (x : σ) :
    (w.system.recordAll ⟨some s⟩ events).run x = ((), w.records s x events) := by
  have hw : Logger.written ⟨some s⟩ events = events.filter fun e => e.level ∈ s.level.through := by
    simp only [← Level.admits_eq]
    rfl
  simp only [System.recordAll, hw]
  exact w.run_forM_record s _ x

-- What becomes of a world by starting logging and by recording.
inductive Logs : σ → σ → Prop
  | refl (x : σ) : Logs x x
  | start {x y : σ} (s : Settings) (h : Logs x y) : Logs x (w.startLogging y s).2
  | record {x y : σ} (s : Settings) (e : Event) (h : Logs x y) : Logs x (w.record y s e)

variable {w} in
theorem Logs.trans {x y z : σ} (h : Logs w x y) (h' : Logs w y z) : Logs w x z := by
  induction h'
  case refl            => exact h
  case start s _ hi    => exact hi.start s
  case record s e _ hi => exact hi.record s e

variable {w} in
theorem Logs.records {x y : σ} (h : Logs w x y) (s : Settings) (events : List Event) :
    Logs w x (w.records s y events) := by
  rw [World.records, recordEach]
  generalize events.filter (fun e => e.level ∈ s.level.through) = admitted
  induction admitted generalizing y
  case nil => exact h
  case cons e admitted hi => exact hi (h.record s e)

-- A world in which logging writes nothing on the error output.
structure Silent : Prop where
  start (x : σ) (s : Settings) : w.errors (w.startLogging x s).2 = w.errors x
  record (x : σ) (s : Settings) (e : Event) : w.errors (w.record x s e) = w.errors x

variable {w} in
theorem Silent.errors_eq (hw : w.Silent) {x y : σ} (h : Logs w x y) : w.errors y = w.errors x := by
  induction h
  case refl            => rfl
  case start s _ hi    => rw [hw.start, hi]
  case record s e _ hi => rw [hw.record, hi]

-- What can be seen of a world that is ready to write records for given settings: a log, which grows by
-- each of them, and the rest, which stays as it is.
structure LogView (s : Settings) (ρ : Type) where
  ready : σ → Prop
  log   : σ → List UInt8
  rest  : σ → ρ
  ready_record {x : σ} (h : ready x) (e : Event) : ready (w.record x s e)
  log_record {x : σ} (h : ready x) (e : Event) : log (w.record x s e) = log x ++ e.recordBytes
  rest_record {x : σ} (h : ready x) (e : Event) : rest (w.record x s e) = rest x

variable {w} in
theorem LogView.recordEach {s : Settings} {ρ : Type} (v : w.LogView s ρ) {x : σ} (h : v.ready x)
    (events : List Event) :
    v.log (w.recordEach s x events) = v.log x ++ events.flatMap Event.recordBytes ∧
      v.rest (w.recordEach s x events) = v.rest x := by
  induction events generalizing x
  case nil => simp [World.recordEach]
  case cons e events hi =>
    obtain ⟨hlog, hrest⟩ := hi (v.ready_record h e)
    rw [World.recordEach, List.foldl_cons, List.flatMap_cons, ← List.append_assoc,
      ← v.log_record h e, ← v.rest_record h e]
    exact ⟨hlog, hrest⟩

-- What becomes of a world by what a logger records. An idle one changes nothing.
structure Recorded (l : Logger) (x y : σ) : Prop where
  idle : l = .idle → y = x
  logs : Logs w x y

variable {w} in
theorem Recorded.refl (l : Logger) (x : σ) : Recorded w l x x where
  idle _ := rfl
  logs   := .refl x

variable {w} in
theorem Recorded.trans {l : Logger} {x y z : σ} (h : Recorded w l x y) (h' : Recorded w l y z) :
    Recorded w l x z where
  idle hl := (h'.idle hl).trans (h.idle hl)
  logs    := h.logs.trans h'.logs

theorem exists_run_recordAll (l : Logger) (events : List Event) (x : σ) :
    ∃ y, (w.system.recordAll l events).run x = pure ((), y) ∧ Recorded w l x y := by
  obtain ⟨_ | s⟩ := l
  case none => exact ⟨x, rfl, .refl _ x⟩
  case some =>
    exact ⟨_, w.run_recordAll_active s events x, nofun, (Logs.refl x).records s events⟩

section Request

variable {w} {s : Settings} {x y : σ}

-- Once logging has started, a request is only compared with what is active.
theorem run_requestLogging_active (active s : Settings) (x : σ) :
    (w.system.requestLogging ⟨some active⟩ s).run x =
      ((Logger.agree active s, ⟨some active⟩), x) :=
  rfl

theorem run_requestLogging_of_error {failure : StartFailure}
    (h : w.startLogging x s = (.error failure, y)) :
    (w.system.requestLogging .idle s).run x = ((.error (.failed s failure), .idle), y) := by
  have hs : (w.system.startLogging s).run x = pure (.error failure, y) := h
  simp only [System.requestLogging, Logger.request, Logger.idle, StateT.run_bind, hs]
  rfl

-- A start that succeeds is recorded, with the settings that it has fixed.
theorem run_requestLogging_of_ok (h : w.startLogging x s = (.ok (), y)) :
    (w.system.requestLogging .idle s).run x =
      ((.ok (), ⟨some s⟩), w.records s y [.loggingStarted s.level s.directory]) := by
  have hs : (w.system.startLogging s).run x = pure (.ok (), y) := h
  have hr := w.run_recordAll_active s [.loggingStarted s.level s.directory] y
  simp only [System.requestLogging, Logger.request, Logger.idle, StateT.run_bind, hs, pure_bind,
    Logger.startEvents, StateT.run_pure, hr]
  rfl

end Request
end World

namespace Disk

variable {home : String} {d : Disk} {s : Settings} {way : List String}

theorem hasDirectory_record (h : d.HasDirectory home s.directory way) (e : Event) :
    ((world home).record d s e).HasDirectory home s.directory way := by
  obtain ⟨hl, entries, hd⟩ := h
  exact ⟨locate_append hl _ _ hl, at?_append_directory hl _ _ hd⟩

theorem content?_record_of_ne (h : d.HasDirectory home s.directory way) (e : Event)
    {v : List String} (hv : v ≠ way ++ [logFile]) :
    ((world home).record d s e).content? v = d.content? v := by
  apply content?_append_of_ne
  intro way' hl
  cases h.1.symm.trans hl
  exact hv

theorem content?_record (h : d.HasDirectory home s.directory way)
    (hf : ∀ es, d.at? (way ++ [logFile]) ≠ some (.directory es)) (e : Event) :
    ((world home).record d s e).content? (way ++ [logFile]) =
      some ((d.content? (way ++ [logFile])).getD [] ++ e.recordBytes) := by
  obtain ⟨hl, entries, hd⟩ := h
  exact content?_append hl hd hf _

theorem not_directory_of_content? {bytes : List UInt8} (h : d.content? way = some bytes) :
    ∀ es, d.at? way ≠ some (.directory es) := by
  intro es he
  rw [content?, he] at h
  cases h

-- The log is the file in the log directory, unless there is a directory in its place.
def logView (home : String) (s : Settings) (way : List String) :
    (world home).LogView s ({v : List String // v ≠ way ++ [logFile]} → Option (List UInt8)) where
  ready d  := d.HasDirectory home s.directory way ∧
    ∀ es, d.at? (way ++ [logFile]) ≠ some (.directory es)
  log d    := (d.content? (way ++ [logFile])).getD []
  rest d v := d.content? v
  ready_record h e := ⟨hasDirectory_record h.1 e, not_directory_of_content? (content?_record h.1 h.2 e)⟩
  log_record h e   := by rw [content?_record h.1 h.2 e, Option.getD_some]
  rest_record h e  := funext fun v => content?_record_of_ne h.1 e v.2

-- Only the file in the log directory changes. It grows by the records of the events that the level
-- lets through, unless there is a directory in its place.
theorem content?_records (h : d.HasDirectory home s.directory way) (events : List Event) :
    (∀ v, v ≠ way ++ [logFile] → ((world home).records s d events).content? v = d.content? v) ∧
      ((∀ es, d.at? (way ++ [logFile]) ≠ some (.directory es)) →
        (((world home).records s d events).content? (way ++ [logFile])).getD [] =
          (d.content? (way ++ [logFile])).getD [] ++
            (events.filter fun e => e.level ∈ s.level.through).flatMap Event.recordBytes) := by
  rw [World.records]
  generalize events.filter (fun e => e.level ∈ s.level.through) = admitted
  constructor
  case left =>
    intro v hv
    induction admitted generalizing d
    case nil => rfl
    case cons e admitted hi =>
      rw [World.recordEach, List.foldl_cons, ← content?_record_of_ne h e hv]
      exact hi (hasDirectory_record h e)
  case right =>
    intro hf
    exact ((logView home s way).recordEach ⟨h, hf⟩ admitted).1

-- Logging leaves all files as they are but those that are called as the log file is.
theorem keeps_of_logs {after : Disk} (h : World.Logs (world home) d after) :
    Keeps home logFile d after := by
  induction h
  case refl => exact .refl home logFile d
  case start s _ hi    => exact hi.trans (makeDirectories_keeps _ home s.directory)
  case record s e _ hi => exact hi.trans (append_keeps _ home s.directory _)

theorem startLogging_hasDirectory {started : Disk}
    (h : (world home).startLogging d s = (.ok (), started)) :
    ∃ way, started.HasDirectory home s.directory way := by
  have hs : ((d.makeDirectories home s.directory).1.mapError StartFailure.noDirectory,
      (d.makeDirectories home s.directory).2) = (.ok (), started) := h
  generalize hm : d.makeDirectories home s.directory = made at hs
  obtain ⟨result, after⟩ := made
  obtain ⟨hr, rfl⟩ := Prod.mk.inj hs
  cases result
  case error e => cases hr
  case ok      => exact makeDirectories_hasDirectory hm

theorem silent_world (home : String) : (world home).Silent where
  start _ _    := rfl
  record _ _ _ := rfl

-- Once logging has started on a tree of files, its records go to the one file of their directory.
theorem startLogging_content?_records {started : Disk}
    (h : (world home).startLogging d s = (.ok (), started)) (events : List Event) :
    ∃ way, started.HasDirectory home s.directory way ∧
      (∀ v, v ≠ way ++ [logFile] →
        ((world home).records s started events).content? v = started.content? v) ∧
      ((∀ es, started.at? (way ++ [logFile]) ≠ some (.directory es)) →
        (((world home).records s started events).content? (way ++ [logFile])).getD [] =
          (started.content? (way ++ [logFile])).getD [] ++
            (events.filter fun e => e.level ∈ s.level.through).flatMap Event.recordBytes) := by
  obtain ⟨way, hd⟩ := startLogging_hasDirectory h
  exact ⟨way, hd, content?_records hd events⟩

end Disk
end ChainHost
