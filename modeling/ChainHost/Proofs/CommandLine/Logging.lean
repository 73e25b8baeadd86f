import ChainHost.Proofs.CommandLine.Run

namespace ChainHost.CommandLine

open Logging

variable {π : Type} [PatternLanguage π]

section Relations

variable {σ : Type} (w : World σ) (x : σ) (e : Environment)

-- Why there is no logging although the environment asks for it.
inductive Disabled : String → Prop
  | unusable {error : SettingsError} (settings : Settings.ofEnvironment e = .error error) :
      Disabled error.message
  | failed {s : Settings} {failure : StartFailure} {y : σ}
      (settings : Settings.ofEnvironment e = .ok (some s))
      (start : w.startLogging x s = (.error failure, y)) : Disabled (failure.message s)

-- The warnings of a run: there is one exactly if logging is disabled.
inductive Warns : List String → Prop
  | silent (enabled : ∀ message, ¬Disabled w x e message) : Warns []
  | disabled {message : String} (h : Disabled w x e message) :
      Warns ["warning: logging disabled: " ++ message]

-- The world in which a chain is started: logging is too, and the registry has been recorded.
def startingWorld : σ :=
  StateT.run (do
    let (logger, _) ← startLogging w.system e
    w.system.recordAll logger [.registered Declared.typeName]) x |>.2

-- Logging leaves what is read as it is: the manifest, and the file of the code if it names one.
structure Undisturbed (path : String) : Prop where
  manifest : w.read (startingWorld w x e) path = w.read x path
  code : ∀ m file, Manifest.loadFrom (w.read x) path = .ok m → m.nucleus.codeFile = some file →
    w.read (startingWorld w x e) (Path.join (Manifest.baseOf path) file) =
      w.read x (Path.join (Manifest.baseOf path) file)

end Relations

section Reads

variable {read read' : String → Except StorageError String} {path : String}

-- The manifest and the file that it names are all that a start depends on.
theorem Starts.of_read_eq {start : Except RunError (Declared π)}
    (h : Starts read path start) (hm : read' path = read path)
    (hc : ∀ m file, Manifest.loadFrom read path = .ok m → m.nucleus.codeFile = some file →
      read' (Path.join (Manifest.baseOf path) file) = read (Path.join (Manifest.baseOf path) file)) :
    Starts read' path start := by
  have hload := Manifest.loadFrom_congr hm
  have hsource (m : Manifest) (hl : Manifest.loadFrom read path = .ok m) :=
    Manifest.sourceCodeFrom_congr fun file => hc m file hl
  cases h
  case unloadable hl          => exact .unloadable (hload.trans hl)
  case sourceless hl hs       => exact .sourceless (hload.trans hl) ((hsource _ hl).trans hs)
  case foreign hl hs ht       => exact .foreign (hload.trans hl) ((hsource _ hl).trans hs) ht
  case defective hl hs ht hn  => exact .defective (hload.trans hl) ((hsource _ hl).trans hs) ht hn
  case started hl hs ht hn    => exact .started (hload.trans hl) ((hsource _ hl).trans hs) ht hn

end Reads

section Run

variable {σ : Type} {w : World σ} {x : σ} {e : Environment}

theorem Ends.startingWorld {path : String} {rest : List String}
    {result : Except RunError (List String)} (h : Ends π (w.read x) path rest result)
    (hu : Undisturbed w x e path) : Ends π (w.read (startingWorld w x e)) path rest result := by
  cases h
  case failed hs      => exact .failed (hs.of_read_eq hu.manifest hu.code)
  case answered hs ha => exact .answered (hs.of_read_eq hu.manifest hu.code) ha

theorem not_disabled_of_unset (h : Settings.ofEnvironment e = .ok none) (message : String) :
    ¬Disabled w x e message := by
  intro hd
  cases hd
  case unusable he => cases h.symm.trans he
  case failed he _ => cases h.symm.trans he

theorem not_disabled_of_ok {s : Settings} {y : σ} (h : Settings.ofEnvironment e = .ok (some s))
    (hy : w.startLogging x s = (.ok (), y)) (message : String) : ¬Disabled w x e message := by
  intro hd
  cases hd
  case unusable he => cases h.symm.trans he
  case failed he hf =>
    cases h.symm.trans he
    cases hy.symm.trans hf

theorem Disabled.deterministic {message message' : String} (h : Disabled w x e message)
    (h' : Disabled w x e message') : message = message' := by
  cases h
  case unusable hs =>
    cases h'
    case unusable hs' => cases hs.symm.trans hs'; rfl
    case failed hs' _ => cases hs.symm.trans hs'
  case failed hs hf =>
    cases h'
    case unusable hs' => cases hs.symm.trans hs'
    case failed hs' hf' =>
      cases hs.symm.trans hs'
      cases hf.symm.trans hf'
      rfl

theorem Warns.deterministic {warnings warnings' : List String} (h : Warns w x e warnings)
    (h' : Warns w x e warnings') : warnings = warnings' := by
  cases h
  case silent hn =>
    cases h'
    case silent      => rfl
    case disabled hd => exact absurd hd (hn _)
  case disabled hd =>
    cases h'
    case silent hn    => exact absurd hd (hn _)
    case disabled hd' => rw [hd.deterministic hd']

-- Whatever becomes of logging, it ends in a warning at most.
theorem exists_run_startLogging (w : World σ) (x : σ) (e : Environment) :
    ∃ logger warnings y, (startLogging w.system e).run x = pure ((logger, warnings), y) ∧
      Warns w x e warnings ∧ World.Logs w x y := by
  unfold startLogging
  cases hs : Settings.ofEnvironment e
  case error error => exact ⟨_, _, x, rfl, .disabled (.unusable hs), .refl x⟩
  case ok settings =>
    cases settings
    case none => exact ⟨_, _, x, rfl, .silent (not_disabled_of_unset hs), .refl x⟩
    case some s =>
      obtain ⟨result, y, hy⟩ : ∃ result y, w.startLogging x s = (result, y) := ⟨_, _, rfl⟩
      have hl : World.Logs w x y := by
        have hstart := (World.Logs.refl (w := w) x).start s
        rwa [hy] at hstart
      cases result
      case error failure =>
        have hr := World.run_requestLogging_of_error hy
        refine ⟨.idle, _, y, ?_, .disabled (.failed hs hy), hl⟩
        dsimp only
        rw [StateT.run_bind, hr]
        rfl
      case ok =>
        have hr := World.run_requestLogging_of_ok hy
        refine ⟨⟨some s⟩, _, w.records s y [.loggingStarted s.level s.directory], ?_,
          .silent (not_disabled_of_ok hs hy), hl.records s _⟩
        dsimp only
        rw [StateT.run_bind, hr]
        rfl

theorem startingWorld_eq {logger : Logger} {warnings : List String} {y z : σ}
    (hs : (startLogging w.system e).run x = pure ((logger, warnings), y))
    (hr : (w.system.recordAll logger [.registered Declared.typeName]).run y = pure ((), z)) :
    startingWorld w x e = z := by
  rw [startingWorld, StateT.run_bind, hs, pure_bind]
  dsimp only
  rw [hr]
  rfl

theorem logs_startingWorld (w : World σ) (x : σ) (e : Environment) :
    World.Logs w x (startingWorld w x e) := by
  obtain ⟨logger, warnings, y, hs, -, hy⟩ := exists_run_startLogging w x e
  obtain ⟨z, hr, hz⟩ := w.exists_run_recordAll logger [.registered Declared.typeName] y
  rw [startingWorld_eq hs hr]
  exact hy.trans hz.logs

-- A run ends as it does without logging, but for a warning.
theorem exists_run_run (w : World σ) (x : σ) (e : Environment) {arguments : List String}
    (h : ∀ path ∈ arguments.head?, path ≠ "--version" → Undisturbed w x e path) :
    ∃ warnings y, Warns w x e warnings ∧
      (run π w.system e arguments).run x =
        (warned warnings ((run π w.system ⟨none, none⟩ arguments).run x).1, y) ∧
      World.Logs w x y := by
  obtain ⟨logger, warnings, y, hs, hw, hy⟩ := exists_run_startLogging w x e
  have hidle := run_startLogging_of_unset w x none
  cases arguments
  case nil =>
    refine ⟨warnings, y, hw, ?_, hy⟩
    rw [run_run_nil hs, run_run_nil hidle, warned_nil]
  case cons path rest =>
    by_cases hp : path = "--version"
    case pos =>
      subst hp
      refine ⟨warnings, y, hw, ?_, hy⟩
      rw [run_run_version hs, run_run_version hidle, warned_nil]
    case neg =>
      obtain ⟨z, hr, hz⟩ := w.exists_run_recordAll logger [.registered Declared.typeName] y
      obtain ⟨result, he⟩ := exists_ends π (w.read x) path rest
      have he' := he.startingWorld (h path rfl hp)
      rw [startingWorld_eq hs hr] at he'
      obtain ⟨z', hrun, hz'⟩ := he'.run_run hs hr hp
      obtain ⟨x', hrun', -⟩ := he.run_run hidle (w.run_recordAll_idle _ x) hp
      refine ⟨warnings, z', hw, ?_, hy.trans (hz.logs.trans hz'.logs)⟩
      rw [hrun, hrun', warned_nil]

-- A chain that has been started answers, after the warnings.
theorem Starts.exists_run {path : String} {n : Declared π} {rest : List String}
    {result : Except RunError (List String)} (hp : path ≠ "--version")
    (hs : Starts (w.read (startingWorld w x e)) path (.ok n)) (ha : Answers n rest result) :
    ∃ warnings, ((run π w.system e (path :: rest)).run x).1 = warned warnings (outcome result) := by
  obtain ⟨logger, warnings, y, hl, -, -⟩ := exists_run_startLogging w x e
  obtain ⟨z, hr, -⟩ := w.exists_run_recordAll logger [.registered Declared.typeName] y
  rw [startingWorld_eq hl hr] at hs
  obtain ⟨z', hrun, -⟩ := (Ends.answered hs ha).run_run hl hr hp
  exact ⟨warnings, congrArg Prod.fst hrun⟩

-- The registry can always be made, so that no run ends with the code for that.
theorem exit_run_ne_two (w : World σ) (x : σ) (e : Environment) (arguments : List String) :
    ((run π w.system e arguments).run x).1.exit ≠ 2 := by
  obtain ⟨logger, warnings, y, hs, -, -⟩ := exists_run_startLogging w x e
  cases arguments
  case nil =>
    rw [run_run_nil hs]
    exact nofun
  case cons path rest =>
    by_cases hp : path = "--version"
    case pos =>
      subst hp
      rw [run_run_version hs]
      exact nofun
    case neg =>
      obtain ⟨z, hr, -⟩ := w.exists_run_recordAll logger [.registered Declared.typeName] y
      obtain ⟨result, he⟩ := exists_ends π (w.read z) path rest
      obtain ⟨z', hrun, -⟩ := he.run_run hs hr hp
      rw [hrun]
      cases result <;> exact nofun

end Run

section Disk

variable {home path : String} {d : Disk}

-- A path that leads to a file, which is not called as the log file is.
def LeadsToFile (home : String) (d : Disk) (path : String) : Prop :=
  ∃ way bytes, d.locate home path = .ok way ∧ d.content? way = some bytes ∧
    way.getLast? ≠ some Disk.logFile

theorem LeadsToFile.read_startingWorld (h : LeadsToFile home d path) (e : Environment) :
    (Disk.world home).read (startingWorld (Disk.world home) d e) path =
      (Disk.world home).read d path := by
  obtain ⟨way, bytes, hl, hc, hn⟩ := h
  have hk := Disk.keeps_of_logs (logs_startingWorld (Disk.world home) d e)
  exact hk.read_eq hl hc hn

-- On a tree of files logging disturbs no run whose manifest and whose code are files there, unless one
-- is called as the log file is.
theorem undisturbed_of_leadsToFile (hm : LeadsToFile home d path)
    (hc : ∀ m file, Manifest.loadFrom ((Disk.world home).read d) path = .ok m →
      m.nucleus.codeFile = some file → LeadsToFile home d (Path.join (Manifest.baseOf path) file))
    (e : Environment) : Undisturbed (Disk.world home) d e path where
  manifest             := hm.read_startingWorld e
  code m file hl hfile := (hc m file hl hfile).read_startingWorld e

end Disk

variable (π) in
-- Two runs with any settings, whose logging leaves what they read as it is, differ in their warnings
-- alone. A warning stands before all else, and it is there if and only if logging is disabled. Where
-- logging itself is silent, nothing more comes to the error output.
theorem logging_only_warns {σ : Type} (w : World σ) (x : σ) (arguments : List String)
    (directory level directory' level' : Option ByteArray)
    (h : ∀ path ∈ arguments.head?, path ≠ "--version" →
      Undisturbed w x (.ofBytes directory level) path)
    (h' : ∀ path ∈ arguments.head?, path ≠ "--version" →
      Undisturbed w x (.ofBytes directory' level') path) :
    ∃ exit output errors warnings warnings' y y',
      (run π w.system (.ofBytes directory level) arguments).run x =
        (⟨exit, output, unlines warnings ++ errors⟩, y) ∧
      (run π w.system (.ofBytes directory' level') arguments).run x =
        (⟨exit, output, unlines warnings' ++ errors⟩, y') ∧
      Warns w x (.ofBytes directory level) warnings ∧
      Warns w x (.ofBytes directory' level') warnings' ∧
      (w.Silent → w.errors y = w.errors x ∧ w.errors y' = w.errors x) := by
  obtain ⟨warnings, y, hw, hrun, hy⟩ := exists_run_run (π := π) w x (.ofBytes directory level) h
  obtain ⟨warnings', y', hw', hrun', hy'⟩ :=
    exists_run_run (π := π) w x (.ofBytes directory' level') h'
  exact ⟨_, _, _, warnings, warnings', y, y', hrun, hrun', hw, hw',
    fun hs => ⟨hs.errors_eq hy, hs.errors_eq hy'⟩⟩

section Example

theorem undisturbed_diskWithChain (e : Environment) :
    Undisturbed (Disk.world "/") diskWithChain e "/chain" := by
  have hm : LeadsToFile "/" diskWithChain "/chain" := by
    exact ⟨["chain"], _, by decide +kernel, rfl, by decide⟩
  refine undisturbed_of_leadsToFile hm (fun m file hl hfile => ?_) e
  cases hl.symm.trans loadFrom_diskWithChain
  cases hfile
  exact ⟨["code"], _, by decide +kernel, rfl, by decide⟩

-- Of two runs one asks for a log directory below a file, and one for a directory that can be made.
theorem logging_only_warns_below_file :
    ∃ exit output errors y y',
      (run Pattern (Disk.system "/") (.ofBytes (some "/chain/log".toUTF8) none) ["/chain"]).run
          diskWithChain =
        (⟨exit, output, unlines ["warning: logging disabled: " ++
          "failed to create log directory `/chain/log`: Not a directory (os error 20)"] ++ errors⟩, y) ∧
      (run Pattern (Disk.system "/") (.ofBytes (some "/log".toUTF8) (some "info".toUTF8))
          ["/chain"]).run diskWithChain = (⟨exit, output, unlines [] ++ errors⟩, y') ∧
      (Disk.world "/").errors y = "" ∧ (Disk.world "/").errors y' = "" := by
  have hu (e : Environment) : ∀ path ∈ ["/chain"].head?, path ≠ "--version" →
      Undisturbed (Disk.world "/") diskWithChain e path := by
    rintro path ⟨⟩ -
    exact undisturbed_diskWithChain e
  have hbelow : Settings.ofEnvironment (.ofBytes (some "/chain/log".toUTF8) none) =
      .ok (some ⟨.debug, "/chain/log"⟩) := by decide +kernel
  have hlog : Settings.ofEnvironment (.ofBytes (some "/log".toUTF8) (some "info".toUTF8)) =
      .ok (some ⟨.info, "/log"⟩) := by decide +kernel
  have hfailed : ((Disk.world "/").startLogging diskWithChain ⟨.debug, "/chain/log"⟩).1 =
      .error (.noDirectory .notDirectory) := by decide +kernel
  have hstarted : ((Disk.world "/").startLogging diskWithChain ⟨.info, "/log"⟩).1 = .ok () := by
    decide +kernel
  obtain ⟨exit, output, errors, warnings, warnings', y, y', hrun, hrun', hw, hw', hsilent⟩ :=
    logging_only_warns Pattern (Disk.world "/") diskWithChain ["/chain"]
      (some "/chain/log".toUTF8) none (some "/log".toUTF8) (some "info".toUTF8) (hu _) (hu _)
  cases hw.deterministic (.disabled (.failed hbelow (Prod.ext hfailed rfl)))
  cases hw'.deterministic (.silent (not_disabled_of_ok hlog (Prod.ext hstarted rfl)))
  exact ⟨exit, output, errors, y, y', hrun, hrun', hsilent (Disk.silent_world "/")⟩

end Example
end ChainHost.CommandLine
