import ChainHost.Proofs.Interface
import ChainHost.Proofs.Manifest.Written

namespace ChainHost

open Json (Tree)

-- Records of a type come back from their texts, where `Written` tells of each form whether it says a
-- record.
structure ComesBack {α : Type} (ofText : String → Except Json.Fault α) (text : α → String)
    (Written : Tree → α → Prop) : Prop where
  written : ∀ a, ofText (text a) = .ok a
  forms   : ∀ {t raw a}, t.HasText raw → (ofText raw = .ok a ↔ Written t a)
  stable  : ∀ {raw rewritten}, (ofText raw).map text = .ok rewritten →
    (ofText rewritten).map text = .ok rewritten

section Records

variable {α : Type} {ofText : String → Except Json.Fault α} {text : α → String}
  {Written : Tree → α → Prop}

theorem ComesBack.of_written (hw : ∀ a, ofText (text a) = .ok a)
    (hf : ∀ {t raw a}, t.HasText raw → (ofText raw = .ok a ↔ Written t a)) :
    ComesBack ofText text Written := by
  refine ⟨hw, hf, fun h => ?_⟩
  obtain ⟨a, -, rfl⟩ := map_eq_ok_iff.1 h
  rw [hw]
  rfl

end Records

-- The records of a host come back, of whatever form they were. A manifest that has come back passes
-- the same check as before and has the same source.
theorem records_come_back :
    ComesBack Manifest.ofText Manifest.text (fun t m => m.Written t) ∧
      ComesBack NucleusSection.ofText NucleusSection.text (fun t s => s.Written t) ∧
      ComesBack Interface.ofText Interface.text
        (fun t i => i.Written (t.own Interface.layout.names)) ∧
      ComesBack EntryType.ofText EntryType.text
        (fun t e => e.Written (t.own EntryType.layout.names)) ∧
      ∀ raw m again, Manifest.ofText raw = .ok m → Manifest.ofText m.text = .ok again →
        again.nucleus.codeFile = m.nucleus.codeFile ∧ again.check = m.check ∧
          ∀ (μ : Type → Type) [Monad μ] (read : String → μ (Except StorageError String)) base,
            again.sourceCode read base = m.sourceCode read base := by
  refine ⟨.of_written Manifest.ofText_text fun ht => Manifest.ofText_eq_ok_iff ht,
    .of_written NucleusSection.ofText_text fun ht => NucleusSection.ofText_eq_ok_iff ht,
    .of_written Interface.ofText_text fun ht => Interface.ofText_eq_ok_iff ht,
    .of_written EntryType.ofText_text fun ht => EntryType.ofText_eq_ok_iff ht, ?_⟩
  intro raw m again _ h
  cases (Manifest.ofText_text m).symm.trans h
  exact ⟨rfl, rfl, fun _ _ _ _ => rfl⟩

theorem records_come_back_from_array :
    (Manifest.ofText "[\"n\", [\"t\", null, \"a/./b\"]]").map Manifest.text =
        .ok "\x7b\"name\":\"n\",\"nucleus\":\x7b\"type\":\"t\",\"code_file\":\"a/./b\"\x7d\x7d" ∧
      (Manifest.ofText
          "\x7b\"name\":\"n\",\"nucleus\":\x7b\"type\":\"t\",\"code_file\":\"a/./b\"\x7d\x7d").map
        Manifest.text =
        .ok "\x7b\"name\":\"n\",\"nucleus\":\x7b\"type\":\"t\",\"code_file\":\"a/./b\"\x7d\x7d" := by
  have hm : (Manifest.ofText "[\"n\", [\"t\", null, \"a/./b\"]]").toOption =
      some ⟨"n", "t", none, some "a/./b"⟩ := by decide +kernel
  have h : (Manifest.ofText "[\"n\", [\"t\", null, \"a/./b\"]]").map Manifest.text =
      .ok "\x7b\"name\":\"n\",\"nucleus\":\x7b\"type\":\"t\",\"code_file\":\"a/./b\"\x7d\x7d" := by
    cases he : Manifest.ofText "[\"n\", [\"t\", null, \"a/./b\"]]" <;> rw [he] at hm <;> cases hm
    case ok => exact congrArg Except.ok (by decide +kernel)
  exact ⟨h, records_come_back.1.stable h⟩

end ChainHost
