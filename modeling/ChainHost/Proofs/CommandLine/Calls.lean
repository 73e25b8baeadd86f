import ChainHost.Proofs.CommandLine.Logging
import ChainHost.Proofs.Json.Compact
import ChainHost.Proofs.Text.Lines

namespace ChainHost.CommandLine

open Json (Value OneLine)
open Declared (FunctionDecl)

-- How a run ends that calls a function of JSON.
structure PrintsOneLine (d : FunctionDecl) (params : String) (o : Outcome) : Prop where
  success : o.exit = 0 ↔ d.error = none ∧ ∃ v, Value.ofText params = .ok v
  line    : o.exit = 0 → ∃ v, Value.ofText params = .ok v ∧ OneLine (d.returns.getD v).text ∧
    o.output = (d.returns.getD v).text ++ "\n" ∧
    Text.lines o.output.toList = [(d.returns.getD v).text.toList]

section Calls

variable {π : Type} [PatternLanguage π] {d : FunctionDecl} {n : Declared π} {rest : List String} {name params text : String}

theorem wireAnswer_json (hd : d.schema = .json) :
    d.wireAnswer params = .ok text ↔
      d.error = none ∧ ∃ v, Value.ofText params = .ok v ∧ (d.returns.getD v).text = text := by
  rw [FunctionDecl.wireAnswer, hd, Declared.wireParams]
  cases Value.ofText params <;> cases d.error <;> cases d.returns <;> simp [Declared.wireText]

theorem answers_of_call (hc : Command.ofArguments rest = .call name params) :
    Answers n rest
      (match (Nucleus.callEncoded n name params).1 with
        | .ok text       => .ok [text]
        | .error failure => .error (.nucleus failure)) := by
  rw [answers_iff, hc]
  rfl

theorem lines_singleton (h : OneLine text) : Text.lines (text ++ "\n").toList = [text.toList] := by
  have hn : '\n' ∉ text.toList := fun hn => absurd (h.printable _ hn) (by decide)
  simpa using Text.lines_flatMap (List.forall_mem_singleton.2 hn)

theorem printsOneLine_of_ok (hd : d.schema = .json) (hw : d.wireAnswer params = .ok text)
    (warnings : List String) : PrintsOneLine d params (warned warnings (outcome (.ok [text]))) := by
  obtain ⟨herror, v, hv, rfl⟩ := (wireAnswer_json hd).1 hw
  have hline := (d.returns.getD v).oneLine_text
  have houtput : (warned warnings (outcome (.ok [(d.returns.getD v).text]))).output =
      (d.returns.getD v).text ++ "\n" := unlines_singleton _
  constructor
  case success => exact ⟨fun _ => ⟨herror, v, hv⟩, fun _ => rfl⟩
  case line =>
    intro _
    refine ⟨v, hv, hline, houtput, ?_⟩
    rw [houtput, lines_singleton hline]

theorem printsOneLine_of_error (hd : d.schema = .json) {failure : Failure}
    (hw : d.wireAnswer params = .error failure) (warnings : List String) (error : RunError) :
    PrintsOneLine d params (warned warnings (outcome (.error error))) := by
  have hfails : ¬(d.error = none ∧ ∃ v, Value.ofText params = .ok v) := by
    rintro ⟨herror, v, hv⟩
    cases hw.symm.trans ((wireAnswer_json hd).2 ⟨herror, v, hv, rfl⟩)
  constructor
  case success => exact ⟨nofun, fun h => absurd h hfails⟩
  case line    => exact nofun

end Calls

-- The texts of JSON are on one line, and so is all that is printed for a call that has an answer.
theorem json_is_answered_on_one_line {π : Type} [PatternLanguage π] :
    (∀ v : Value, OneLine (Payload.json v).encode) ∧
      ∀ {σ : Type} (w : World σ) (x : σ) (e : Logging.Environment) (path : String)
        (n : Declared π), path ≠ "--version" →
        Starts (w.read (startingWorld w x e)) path (.ok n) →
        ∃ m code s, Manifest.loadFrom (w.read (startingWorld w x e)) path = .ok m ∧
          m.sourceCodeFrom (w.read (startingWorld w x e)) (Manifest.baseOf path) = .ok code ∧
          Declared.Source.ofText code = .ok s ∧
          ∀ d ∈ s.functions, d.schema = .json →
            ∀ rest params, Command.ofArguments rest = .call d.name params →
              PrintsOneLine d params ((run π w.system e (path :: rest)).run x).1 := by
  refine ⟨Value.oneLine_text, fun w x e path n hp hs => ?_⟩
  obtain ⟨m, code, s, hm, hc, hsource, l⟩ := hs.exists_source
  refine ⟨m, code, s, hm, hc, hsource, fun d hd hj rest params harguments => ?_⟩
  obtain ⟨warnings, hrun⟩ := hs.exists_run hp (answers_of_call harguments)
  rw [hrun, l.callEncoded_of_mem hd]
  cases hw : d.wireAnswer params
  case ok text       => exact printsOneLine_of_ok hj hw warnings
  case error failure => exact printsOneLine_of_error hj hw warnings _

section Example

-- A constant with line feeds in a text and in a key, and a function that gives back its params.
def readLineFeeds (path : String) : Except StorageError String :=
  if path = "c" then .ok "[\"c\",[\"static\",null,\"code\"]]"
  else .ok "[[[\"f\",\"json\",\x7b\"a\\nb\":\"c\\nd\"\x7d],[\"g\",\"json\"]]]"

def lineFeedWorld : World Unit where
  read _           := readLineFeeds
  startLogging _ _ := (.ok (), ())
  record _ _ _     := ()
  errors _         := ""

theorem json_is_answered_on_one_line_despite_line_feeds :
    ((run Pattern lineFeedWorld.system ⟨none, none⟩ ["c", "f", "\n0"]).run ()).1.output =
        "\x7b\"a\\nb\":\"c\\nd\"\x7d\n" ∧
      ((run Pattern lineFeedWorld.system ⟨none, none⟩ ["c", "g", "[1,\n\"\\n\"]"]).run ()).1.output =
        "[1,\"\\n\"]\n" := by
  have hm : Manifest.loadFrom readLineFeeds "c" = .ok ⟨"c", "static", none, some "code"⟩ := by
    decide +kernel
  have hc : Manifest.sourceCodeFrom readLineFeeds ⟨"c", "static", none, some "code"⟩
      (Manifest.baseOf "c") =
        .ok "[[[\"f\",\"json\",\x7b\"a\\nb\":\"c\\nd\"\x7d],[\"g\",\"json\"]]]" := by
    decide +kernel
  have hs : Declared.Source.ofText
      "[[[\"f\",\"json\",\x7b\"a\\nb\":\"c\\nd\"\x7d],[\"g\",\"json\"]]]" =
        .ok ⟨[⟨"f", .json, some (.object [("a\nb", .string "c\nd")]), none⟩,
          ⟨"g", .json, none, none⟩], []⟩ := by cbv
  obtain ⟨n, hn⟩ := Declared.exists_load (π := Pattern) hs (by decide)
  obtain ⟨m, code, s, hm', hc', hs', hcall⟩ := json_is_answered_on_one_line.2 lineFeedWorld ()
    ⟨none, none⟩ "c" n (by decide) (.started hm hc rfl hn)
  cases hm.symm.trans hm'
  cases hc.symm.trans hc'
  cases hs.symm.trans hs'
  have hf := hcall _ (.head _) rfl ["f", "\n0"] "\n0" rfl
  have hg := hcall _ (.tail _ (.head _)) rfl ["g", "[1,\n\"\\n\"]"] "[1,\n\"\\n\"]" rfl
  have hzero : Value.ofText "\n0" = .ok (.number (.integer 0)) := by cbv
  have hlist : Value.ofText "[1,\n\"\\n\"]" =
      .ok (.array [.number (.integer 1), .string "\n"]) := by cbv
  constructor
  case left =>
    obtain ⟨v, -, -, houtput, -⟩ := hf.line (hf.success.2 ⟨rfl, _, hzero⟩)
    rw [houtput]
    rfl
  case right =>
    obtain ⟨v, hv, -, houtput, -⟩ := hg.line (hg.success.2 ⟨rfl, _, hlist⟩)
    cases hlist.symm.trans hv
    rw [houtput]
    rfl

end Example
end ChainHost.CommandLine
