import ChainHost.Proofs.CommandLine.Answers
import ChainHost.Proofs.Manifest
import ChainHost.Proofs.Registry.Creation
import ChainHost.Proofs.System

namespace ChainHost.CommandLine

variable {π : Type} [PatternLanguage π]

section Relations

variable (read : String → Except StorageError String) (path : String)

-- How the chain of a manifest starts: with its nucleus, or with the first thing that is wrong.
inductive Starts : Except RunError (Declared π) → Prop
  | unloadable {e : ManifestError} (load : Manifest.loadFrom read path = .error e) :
      Starts (.error (.manifest e))
  | sourceless {m : Manifest} {e : ManifestError} (load : Manifest.loadFrom read path = .ok m)
      (source : m.sourceCodeFrom read (Manifest.baseOf path) = .error e) :
      Starts (.error (.manifest e))
  | foreign {m : Manifest} {code : String} (load : Manifest.loadFrom read path = .ok m)
      (source : m.sourceCodeFrom read (Manifest.baseOf path) = .ok code)
      (type : m.nucleus.type ≠ Declared.typeName) :
      Starts (.error (.nucleus (.unknownType m.nucleus.type [Declared.typeName])))
  | defective {m : Manifest} {code : String} {e : Failure}
      (load : Manifest.loadFrom read path = .ok m)
      (source : m.sourceCodeFrom read (Manifest.baseOf path) = .ok code)
      (type : m.nucleus.type = Declared.typeName)
      (nucleus : Declared.load (π := π) code = .error e) : Starts (.error (.nucleus e))
  | started {m : Manifest} {code : String} {n : Declared π}
      (load : Manifest.loadFrom read path = .ok m)
      (source : m.sourceCodeFrom read (Manifest.baseOf path) = .ok code)
      (type : m.nucleus.type = Declared.typeName) (nucleus : Declared.load code = .ok n) :
      Starts (.ok n)

variable (π) in
-- How a run ends: its chain does not start, or the nucleus answers the remaining arguments.
inductive Ends (rest : List String) : Except RunError (List String) → Prop
  | failed {e : RunError} (start : Starts (π := π) read path (.error e)) : Ends rest (.error e)
  | answered {n : Declared π} {result : Except RunError (List String)}
      (start : Starts read path (.ok n)) (answer : Answers n rest result) : Ends rest result

end Relations

section Ends

variable {read : String → Except StorageError String} {path : String} {rest : List String}
  {start start' : Except RunError (Declared π)} {result result' : Except RunError (List String)}

variable (π) in
theorem exists_starts (read : String → Except StorageError String) (path : String) :
    ∃ start : Except RunError (Declared π), Starts read path start := by
  cases hm : Manifest.loadFrom read path
  case error e => exact ⟨_, .unloadable hm⟩
  case ok m =>
    cases hs : m.sourceCodeFrom read (Manifest.baseOf path)
    case error e => exact ⟨_, .sourceless hm hs⟩
    case ok code =>
      by_cases ht : m.nucleus.type = Declared.typeName
      case neg => exact ⟨_, .foreign hm hs ht⟩
      case pos =>
        cases hn : Declared.load (π := π) code
        case error e => exact ⟨_, .defective hm hs ht hn⟩
        case ok n    => exact ⟨_, .started hm hs ht hn⟩

theorem Starts.deterministic (h : Starts read path start) (h' : Starts read path start') :
    start = start' := by
  cases h <;> cases h' <;> simp_all

-- A nucleus has been made of the source that the manifest names.
theorem Starts.exists_source {n : Declared π} (h : Starts read path (.ok n)) :
    ∃ m code s, Manifest.loadFrom read path = .ok m ∧
      m.sourceCodeFrom read (Manifest.baseOf path) = .ok code ∧
      Declared.Source.ofText code = .ok s ∧ Declared.Loaded s n := by
  cases h
  case started m code hm hc ht hn =>
    obtain ⟨s, hs, l⟩ := Declared.load_eq_ok hn
    exact ⟨m, code, s, hm, hc, hs, l⟩

variable (π) in
theorem exists_ends (read : String → Except StorageError String) (path : String)
    (rest : List String) : ∃ result, Ends π read path rest result := by
  obtain ⟨start, hs⟩ := exists_starts π read path
  cases start
  case error e => exact ⟨_, .failed hs⟩
  case ok n    => exact ⟨_, .answered hs (answers_answer n rest)⟩

theorem Ends.deterministic (h : Ends π read path rest result) (h' : Ends π read path rest result') :
    result = result' := by
  cases h
  case failed hs =>
    cases h'
    case failed hs'     => cases hs.deterministic hs'; rfl
    case answered hs' _ => cases hs.deterministic hs'
  case answered hs ha =>
    cases h'
    case failed hs' => cases hs.deterministic hs'
    case answered hs' ha' =>
      cases hs.deterministic hs'
      exact ha.answer_eq.symm.trans ha'.answer_eq

theorem Ends.ne_schemaMismatch (h : Ends π read path rest result) (target : String)
    (expected actual : Schema) :
    result ≠ .error (.nucleus (.schemaMismatch target expected actual)) := by
  cases h
  case answered hs ha =>
    cases hs
    case started hn => exact ha.ne_schemaMismatch hn target expected actual
  case failed hs =>
    rintro ⟨⟩
    cases hs
    case defective hn =>
      rcases Declared.load_eq_error hn with ⟨cause, he⟩ | ⟨name, he⟩
      all_goals cases he

end Ends

section Registry

-- The registry that the program has made for itself.
def knownTypes (μ : Type → Type) [Monad μ] (π : Type) [PatternLanguage π] :
    Registry μ Manifest (Declared π) :=
  Registry.empty.after id [.builtin]

variable {μ : Type → Type} [Monad μ]

-- There is nothing before it that the name of declared nuclei could repeat.
theorem registry_eq : registry μ π = .ok (knownTypes μ π, .registered Declared.typeName) :=
  rfl

theorem typeNames_knownTypes : (knownTypes μ π).typeNames = [Declared.typeName] :=
  rfl

-- What is built of a type: there are no nuclei but declared ones.
def built (type code : String) : Except Failure (Declared π) :=
  if type = Declared.typeName then Declared.load code
  else .error (.unknownType type [Declared.typeName])

theorem create_knownTypes [LawfulMonad μ] (m : Manifest) (type code : String) :
    ∃ events, (knownTypes μ π).create m type code = pure (built type code, events) := by
  unfold built
  split
  case isTrue ht =>
    subst ht
    have hf : (knownTypes μ π).factory? Declared.typeName = some (.ofDeclared id) := rfl
    have hb : (Declared.build (π := π) m code).1 = Declared.load code :=
      Declared.result_build m code
    refine ⟨.creating Declared.typeName code.utf8ByteSize ::
      (Declared.build (π := π) m code).2, ?_⟩
    rw [Registry.create_of_factory? hf, ← hb]
    simp only [Factory.ofDeclared, pure_bind]
    cases (Declared.build (π := π) m code).1 <;> rfl
  case isFalse ht =>
    have hn : type ∉ (knownTypes μ π).typeNames := by
      rw [typeNames_knownTypes, List.mem_singleton]
      exact ht
    exact ⟨[], Registry.create_of_not_mem hn m code⟩

end Registry

section Run

variable {σ : Type} {w : World σ} {x : σ} {path : String} {rest : List String}

variable (logger : Logging.Logger) (command : Command)

-- A manifest and its code are read in the same world; what is recorded after that changes nothing in
-- the answer.
theorem run_runChain_of_source {m : Manifest} {code : String}
    (hm : Manifest.loadFrom (w.read x) path = .ok m)
    (hs : m.sourceCodeFrom (w.read x) (Manifest.baseOf path) = .ok code) :
    ∃ y, (runChain w.system (knownTypes (StateM σ) π) logger path command).run x =
        (((built m.nucleus.type code).mapError .nucleus).bind fun n : Declared π => answer n command,
          y) ∧
      World.Recorded w logger x y := by
  obtain ⟨events, hc⟩ := create_knownTypes (μ := StateM σ) (π := π) m m.nucleus.type code
  rw [runChain, StateT.run_bind, w.run_load, pure_bind, hm]
  dsimp only
  rw [StateT.run_bind, w.run_sourceCode, pure_bind, hs]
  dsimp only
  rw [hc, pure_bind, StateT.run_bind]
  obtain ⟨y, hy, hxy⟩ := w.exists_run_recordAll logger events x
  rw [hy, pure_bind]
  cases built (π := π) m.nucleus.type code
  case error e => exact ⟨y, rfl, hxy⟩
  case ok n =>
    dsimp only
    obtain ⟨z, hz, hyz⟩ :=
      w.exists_run_recordAll logger [.chainStarted m.name (Nucleus.typeName n)] y
    rw [StateT.run_bind, hz]
    exact ⟨z, rfl, hxy.trans hyz⟩

-- A chain is started from what the world's files hold.
theorem Starts.run_runChain {start : Except RunError (Declared π)}
    (h : Starts (w.read x) path start) :
    ∃ y, (runChain w.system (knownTypes (StateM σ) π) logger path command).run x =
        (start.bind fun n => answer n command, y) ∧
      World.Recorded w logger x y := by
  cases h
  case unloadable hm =>
    rw [runChain, StateT.run_bind, w.run_load, pure_bind, hm]
    exact ⟨x, rfl, .refl logger x⟩
  case sourceless hm hs =>
    rw [runChain, StateT.run_bind, w.run_load, pure_bind, hm]
    dsimp only
    rw [StateT.run_bind, w.run_sourceCode, pure_bind, hs]
    exact ⟨x, rfl, .refl logger x⟩
  case foreign hm hs ht =>
    obtain ⟨y, hy, hxy⟩ := run_runChain_of_source (π := π) logger command hm hs
    rw [built, if_neg ht] at hy
    exact ⟨y, hy, hxy⟩
  case defective hm hs ht hn =>
    obtain ⟨y, hy, hxy⟩ := run_runChain_of_source (π := π) logger command hm hs
    rw [built, if_pos ht, hn] at hy
    exact ⟨y, hy, hxy⟩
  case started hm hs ht hn =>
    obtain ⟨y, hy, hxy⟩ := run_runChain_of_source (π := π) logger command hm hs
    rw [built, if_pos ht, hn] at hy
    exact ⟨y, hy, hxy⟩

theorem Ends.run_runChain {result : Except RunError (List String)}
    (h : Ends π (w.read x) path rest result) :
    ∃ y, (runChain w.system (knownTypes (StateM σ) π) logger path (.ofArguments rest)).run x =
        pure (result, y) ∧
      World.Recorded w logger x y := by
  cases h
  case failed hs => exact hs.run_runChain logger _
  case answered hs ha =>
    obtain ⟨y, hy, hxy⟩ := hs.run_runChain logger (.ofArguments rest)
    exact ⟨y, by rw [hy, ← ha.answer_eq]; rfl, hxy⟩

end Run

section Outcome

-- What a run reports that has nothing to warn of: the lines of an answer, or an error alone.
def outcome : Except RunError (List String) → Outcome
  | .ok lines => ⟨0, unlines lines, ""⟩
  | .error e  => ⟨1, "", "error: " ++ e.message ++ "\n"⟩

-- Warnings come before anything else that is an error.
def warned (warnings : List String) (o : Outcome) : Outcome :=
  { o with errors := unlines warnings ++ o.errors }

theorem unlines_append (lines more : List String) :
    unlines (lines ++ more) = unlines lines ++ unlines more := by
  rw [unlines, List.map_append, String.join_append]
  rfl

theorem unlines_singleton (line : String) : unlines [line] = line ++ "\n" := by
  simp [unlines]

theorem unlines_nil : unlines [] = "" :=
  rfl

@[simp]
theorem warned_nil (o : Outcome) : warned [] o = o := by
  simp [warned, unlines_nil]

end Outcome

section Run

variable {σ : Type} {w : World σ} {e : Logging.Environment} {logger : Logging.Logger}
  {warnings : List String} {x y z : σ} {path : String} {rest : List String}

theorem run_run_nil (hs : (startLogging w.system e).run x = pure ((logger, warnings), y)) :
    (run π w.system e []).run x = (warned warnings ⟨64, "", usage ++ "\n"⟩, y) := by
  rw [run, StateT.run_bind, hs, pure_bind]
  dsimp only
  rw [unlines_append, unlines_singleton]
  rfl

theorem run_run_version (hs : (startLogging w.system e).run x = pure ((logger, warnings), y))
    (rest : List String) :
    (run π w.system e ("--version" :: rest)).run x =
      (warned warnings ⟨0, versionLine ++ "\n", ""⟩, y) := by
  rw [run, StateT.run_bind, hs, pure_bind]
  dsimp only
  rw [unlines_singleton, warned, String.append_empty]
  rfl

-- A run ends as it does in the world in which its chain is started.
theorem Ends.run_run {result : Except RunError (List String)}
    (hs : (startLogging w.system e).run x = pure ((logger, warnings), y))
    (hr : (w.system.recordAll logger [.registered Declared.typeName]).run y = pure ((), z))
    (hp : path ≠ "--version") (h : Ends π (w.read z) path rest result) :
    ∃ z', (run π w.system e (path :: rest)).run x = (warned warnings (outcome result), z') ∧
      World.Recorded w logger z z' := by
  rw [run, StateT.run_bind, hs, pure_bind]
  dsimp only
  split
  case h_1 he => cases he
  case h_2 he => cases he; exact absurd rfl hp
  case h_3 he =>
    cases he
    obtain ⟨z', hc, hz⟩ := h.run_runChain logger
    rw [registry_eq]
    dsimp only
    rw [StateT.run_bind, hr, pure_bind, StateT.run_bind, hc, pure_bind]
    refine ⟨z', ?_, hz⟩
    cases result
    case ok lines =>
      dsimp only [outcome, warned]
      rw [String.append_empty]
      rfl
    case error e =>
      dsimp only [outcome, warned]
      rw [unlines_append, unlines_singleton]
      rfl

theorem run_startLogging_of_unset (w : World σ) (x : σ) (level : Option String) :
    (startLogging w.system ⟨none, level⟩).run x = pure ((.idle, []), x) :=
  rfl

variable (π) in
-- Without logging, a run reports the first thing that is wrong, or else the answer to the arguments,
-- and changes nothing.
theorem run_reports_first_failure (w : World σ) (x : σ) (path : String) (rest : List String) :
    (run π w.system ⟨none, none⟩ []).run x = (⟨64, "", usage ++ "\n"⟩, x) ∧
      (run π w.system ⟨none, none⟩ ("--version" :: rest)).run x =
        (⟨0, versionLine ++ "\n", ""⟩, x) ∧
      (path ≠ "--version" → ∃ result,
        (∀ r, Ends π (w.read x) path rest r ↔ r = result) ∧
        (run π w.system ⟨none, none⟩ (path :: rest)).run x = (outcome result, x) ∧
        ∀ target expected actual,
          result ≠ .error (.nucleus (.schemaMismatch target expected actual))) := by
  have hs := run_startLogging_of_unset w x none
  refine ⟨?none, ?version, fun hp => ?path⟩
  case none    => rw [run_run_nil hs, warned_nil]
  case version => rw [run_run_version hs, warned_nil]
  case path =>
    obtain ⟨result, he⟩ := exists_ends π (w.read x) path rest
    obtain ⟨z, hz, hxz⟩ := he.run_run hs (w.run_recordAll_idle _ x) hp
    refine ⟨result, fun r => ⟨fun hr => hr.deterministic he, ?_⟩, ?_, he.ne_schemaMismatch⟩
    · rintro rfl
      exact he
    · rw [hz, warned_nil, hxz.idle rfl]

section Example

-- The manifest names a file beside it, whose code declares one function.
def diskWithChain : Disk :=
  .directory [("chain", .file "[\"c\",[\"static\",null,\"code\"]]".toUTF8.toList),
    ("code", .file "[[[\"f\",\"json\"]]]".toUTF8.toList)]

theorem loadFrom_diskWithChain :
    Manifest.loadFrom ((Disk.world "/").read diskWithChain) "/chain" =
      .ok ⟨"c", "static", none, some "code"⟩ := by
  have hr : (Disk.world "/").read diskWithChain "/chain" =
      .ok "[\"c\",[\"static\",null,\"code\"]]" := by decide +kernel
  have hm : Manifest.ofText "[\"c\",[\"static\",null,\"code\"]]" =
      .ok ⟨"c", "static", none, some "code"⟩ := by cbv
  simp only [Manifest.loadFrom, Manifest.load, hr, hm, bind, pure, Id.run]
  rfl

theorem sourceCodeFrom_diskWithChain :
    Manifest.sourceCodeFrom ((Disk.world "/").read diskWithChain)
      ⟨"c", "static", none, some "code"⟩ (Manifest.baseOf "/chain") =
      .ok "[[[\"f\",\"json\"]]]" := by
  decide +kernel

theorem exists_starts_diskWithChain :
    ∃ n : Declared Pattern, Starts ((Disk.world "/").read diskWithChain) "/chain" (.ok n) ∧
      Declared.Loaded ⟨[⟨"f", .json, none, none⟩], []⟩ n := by
  have hs : Declared.Source.ofText "[[[\"f\",\"json\"]]]" =
      .ok ⟨[⟨"f", .json, none, none⟩], []⟩ := by cbv
  obtain ⟨n, hn⟩ := Declared.exists_load (π := Pattern) hs (by decide)
  obtain ⟨s, hs', hl⟩ := Declared.load_eq_ok hn
  cases hs.symm.trans hs'
  exact ⟨n, .started loadFrom_diskWithChain sourceCodeFrom_diskWithChain rfl hn, hl⟩

theorem run_reports_first_failure_on_disk :
    (run Pattern (Disk.system "/") ⟨none, none⟩ []).run diskWithChain =
        (⟨64, "", "usage: nucleus_cli --version\n" ++
          "       nucleus_cli <chain-manifest.json> [function [params]]\n" ++
          "       nucleus_cli <chain-manifest.json> --validate <entry> <string|json> <value>\n"⟩,
          diskWithChain) ∧
      (run Pattern (Disk.system "/") ⟨none, none⟩ ["--version", "/chain"]).run diskWithChain =
        (⟨0, "nucleus_core version=0.1.0\n", ""⟩, diskWithChain) ∧
      (run Pattern (Disk.system "/") ⟨none, none⟩ ["/chain", "f", " [ ]", "ignored"]).run diskWithChain =
        (⟨0, "[]\n", ""⟩, diskWithChain) ∧
      (run Pattern (Disk.system "/") ⟨none, none⟩ ["/chain", "--validate", "e", "xml", ""]).run
          diskWithChain =
        (⟨1, "", "error: interface schema is unsupported: xml (expected string|json)\n"⟩,
          diskWithChain) ∧
      (run Pattern (Disk.system "/") ⟨none, none⟩ ["/chain", "--validate", "e"]).run diskWithChain =
        (⟨1, "", "error: " ++ usage ++ "\n"⟩, diskWithChain) ∧
      (run Pattern (Disk.system "/") ⟨none, none⟩ ["/code/x"]).run diskWithChain =
        (⟨1, "", "error: failed to read `/code/x`: Not a directory (os error 20)\n"⟩,
          diskWithChain) := by
  have run_eq {path : String} {rest : List String} {result : Except RunError (List String)}
      (hp : path ≠ "--version")
      (he : Ends Pattern ((Disk.world "/").read diskWithChain) path rest result) :
      (run Pattern (Disk.system "/") ⟨none, none⟩ (path :: rest)).run diskWithChain =
        (outcome result, diskWithChain) := by
    obtain ⟨-, -, h⟩ := run_reports_first_failure Pattern (Disk.world "/") diskWithChain path rest
    obtain ⟨_, hr, hrun, -⟩ := h hp
    cases (hr result).1 he
    exact hrun
  obtain ⟨n, hn, hl⟩ := exists_starts_diskWithChain
  have hcall : (Nucleus.callEncoded n "f" ([" [ ]", "ignored"].headD "")).1 = .ok "[]" := by
    rw [hl.callEncoded_of_mem (d := ⟨"f", .json, none, none⟩) (.head _)]
    rfl
  have hf : "f" ≠ "--validate" := by decide
  have hxml : ∀ s : Schema, "xml" ≠ s.name := by
    intro s
    cases s <;> decide
  have hread : Manifest.loadFrom ((Disk.world "/").read diskWithChain) "/code/x" =
      .error (.unreadable "/code/x" .notDirectory) := by decide +kernel
  obtain ⟨hnone, hversion, -⟩ :=
    run_reports_first_failure Pattern (Disk.world "/") diskWithChain "/chain" ["/chain"]
  refine ⟨hnone.trans ?none, hversion, ?called, ?unsupported, ?unusable, ?unreadable⟩
  case none        => rfl
  case called      => exact run_eq (by decide) (.answered hn (.called hf hcall))
  case unsupported => exact run_eq (by decide) (.answered hn (.unsupported hxml))
  case unusable    => exact run_eq (by decide) (.answered hn (.unusable (by decide)))
  case unreadable  => exact run_eq (by decide) (.failed (.unloadable hread))

end Example
end Run
end ChainHost.CommandLine
