import ChainHost.Proofs.Manifest
import ChainHost.Proofs.Manifest.Written
import ChainHost.Proofs.Storage.Disk
import ChainHost.Proofs.Text.Trim

namespace ChainHost

namespace Manifest

def IsBlank (name : String) : Prop :=
  ∀ c ∈ name.toList, Text.isBlank c = true

-- The defect of a manifest that counts, where it has several ones.
inductive FirstDefect (m : Manifest) : ManifestDefect → Prop
  | emptyName (hn : IsBlank m.name) : FirstDefect m .emptyName
  | emptyType (hn : ¬IsBlank m.name) (ht : m.nucleus.type = "") : FirstDefect m .emptyType
  | bothSources {code file} (hn : ¬IsBlank m.name) (ht : m.nucleus.type ≠ "")
      (hc : m.nucleus.code = some code) (hf : m.nucleus.codeFile = some file) :
    FirstDefect m .bothSources
  | noSource (hn : ¬IsBlank m.name) (ht : m.nucleus.type ≠ "") (hc : m.nucleus.code = none)
      (hf : m.nucleus.codeFile = none) : FirstDefect m .noSource

-- A manifest with a name, a type and one source.
structure Sound (m : Manifest) : Prop where
  name   : ¬IsBlank m.name
  type   : m.nucleus.type ≠ ""
  source : m.nucleus.code.isSome ≠ m.nucleus.codeFile.isSome

-- What becomes of the content of a file, or of what is in the way of reading it.
inductive Comes (path : String) :
    Except StorageError String → Except ManifestError Manifest → Prop
  | unreadable (cause : StorageError) :
    Comes path (.error cause) (.error (.unreadable path cause))
  | malformed {text fault} (hm : ∀ m, ¬SaidBy text m) (hf : ofText text = .error fault) :
    Comes path (.ok text) (.error (.malformed (fault.message text)))
  | invalid {text m defect} (hm : SaidBy text m) (hd : FirstDefect m defect) :
    Comes path (.ok text) (.error (.invalid defect))
  | loaded {text m} (hm : SaidBy text m) (hs : Sound m) : Comes path (.ok text) (.ok m)

variable {m : Manifest} {defect : ManifestDefect} {path text : String}

theorem trim_name_isEmpty_iff : (Text.trim m.name).isEmpty = true ↔ IsBlank m.name :=
  Text.trim_isEmpty_iff

theorem defect?_eq_some_iff : m.defect? = some defect ↔ m.FirstDefect defect := by
  unfold defect?
  constructor
  case mp =>
    intro h
    split at h
    case isTrue hn => cases h; exact .emptyName (trim_name_isEmpty_iff.1 hn)
    case isFalse hn =>
      have hn := mt trim_name_isEmpty_iff.2 hn
      split at h
      case isTrue ht => cases h; exact .emptyType hn (String.isEmpty_iff.1 ht)
      case isFalse ht =>
        have ht := mt String.isEmpty_iff.2 ht
        split at h <;> cases h
        case h_3 hc hf => exact .bothSources hn ht hc hf
        case h_4 hc hf => exact .noSource hn ht hc hf
  case mpr =>
    intro h
    cases h
    case emptyName hn => rw [if_pos (trim_name_isEmpty_iff.2 hn)]
    all_goals rw [if_neg (mt trim_name_isEmpty_iff.1 ‹_›)]
    case emptyType ht         => rw [if_pos (String.isEmpty_iff.2 ht)]
    case bothSources ht hc hf => rw [if_neg (mt String.isEmpty_iff.1 ht), hc, hf]
    case noSource ht hc hf    => rw [if_neg (mt String.isEmpty_iff.1 ht), hc, hf]

theorem defect?_eq_none_iff : m.defect? = none ↔ m.Sound := by
  unfold defect?
  constructor
  case mp =>
    intro h
    split at h
    case isTrue => cases h
    case isFalse hn =>
      split at h
      case isTrue => cases h
      case isFalse ht =>
        refine ⟨mt trim_name_isEmpty_iff.2 hn, mt String.isEmpty_iff.2 ht, ?_⟩
        split at h <;> simp_all
  case mpr =>
    rintro ⟨hn, ht, hs⟩
    rw [if_neg (mt trim_name_isEmpty_iff.1 hn), if_neg (mt String.isEmpty_iff.1 ht)]
    split <;> simp_all

theorem loadFrom_of_ok (h : ofText text = .ok m) :
    loadFrom (fun _ => .ok text) path = m.check.map fun _ => m := by
  simp only [loadFrom, load, bind, pure, Id.run, h]

theorem loadFrom_of_error {fault : Json.Fault} (h : ofText text = .error fault) :
    loadFrom (fun _ => .ok text) path = .error (.malformed (fault.message text)) := by
  simp only [loadFrom, load, bind, pure, Id.run, h]

theorem loadFrom_eq_iff {content : Except StorageError String} {r : Except ManifestError Manifest} :
    loadFrom (fun _ => content) path = r ↔ Comes path content r := by
  constructor
  case mp =>
    rintro rfl
    cases content
    case error cause => exact .unreadable cause
    case ok text =>
      cases ht : ofText text
      case error fault =>
        rw [loadFrom_of_error ht]
        refine .malformed (fun m hm => ?_) ht
        cases ht.symm.trans (ofText_eq_ok_iff_saidBy.2 hm)
      case ok m =>
        have hm := ofText_eq_ok_iff_saidBy.1 ht
        rw [loadFrom_of_ok ht, check]
        cases hd : m.defect?
        case none        => exact .loaded hm (defect?_eq_none_iff.1 hd)
        case some defect => exact .invalid hm (defect?_eq_some_iff.1 hd)
  case mpr =>
    intro h
    cases h
    case unreadable   => rfl
    case malformed hf => exact loadFrom_of_error hf
    case invalid hm hd =>
      rw [loadFrom_of_ok (ofText_eq_ok_iff_saidBy.2 hm), check, defect?_eq_some_iff.2 hd]
      rfl
    case loaded hm hs =>
      rw [loadFrom_of_ok (ofText_eq_ok_iff_saidBy.2 hm), check, defect?_eq_none_iff.2 hs]
      rfl

section Sources

variable {μ : Type → Type} [Monad μ] {read : String → μ (Except StorageError String)}
  {code file : String}

-- No file is read for code that is there.
theorem sourceCode_of_code (hc : m.nucleus.code = some code) (base : String) :
    m.sourceCode read base = pure (.ok code) := by
  rw [sourceCode, hc]

variable [LawfulMonad μ]

theorem sourceCode_of_file (hc : m.nucleus.code = none) (hf : m.nucleus.codeFile = some file)
    (base : String) :
    m.sourceCode read base =
      Except.mapError (.unreadable (Path.join base file)) <$> read (Path.join base file) := by
  rw [sourceCode, hc, hf]
  dsimp only
  rw [map_eq_pure_bind]
  congr 1
  funext content
  cases content <;> rfl

theorem load_eq (read : String → μ (Except StorageError String)) (path : String) :
    load read path = (fun content => loadFrom (fun _ => content) path) <$> read path := by
  rw [load, map_eq_pure_bind]
  congr 1
  funext content
  cases content
  case error => rfl
  case ok text =>
    dsimp only
    cases ht : ofText text
    case error fault => rw [loadFrom_of_error ht]
    case ok m        => rw [loadFrom_of_ok ht]

-- The answer to a load depends on what is read of the one file. A manifest that is loaded has its
-- code in itself or in one other file, which is all that is read for it.
theorem loaded_has_one_source (read : String → μ (Except StorageError String)) (path : String) :
    (∃ answer, load read path = answer <$> read path ∧
      ∀ content r, answer content = r ↔ Comes path content r) ∧
    (∀ content m, Comes path content (.ok m) → ∀ base,
      (∃ code, m.nucleus.code = some code ∧ m.nucleus.codeFile = none ∧
        m.sourceCode read base = pure (.ok code)) ∨
      ∃ file, m.nucleus.code = none ∧ m.nucleus.codeFile = some file ∧
        m.sourceCode read base =
          Except.mapError (.unreadable (Path.join base file)) <$> read (Path.join base file)) ∧
    ∀ home (disk : Disk) text, disk.read home path = .ok text ↔
      ∃ way, disk.locate home path = .ok way ∧ disk.content? way = some text.toUTF8.toList := by
  refine ⟨⟨_, load_eq read path, fun _ _ => loadFrom_eq_iff⟩, ?_, fun _ _ _ => Disk.read_eq_ok_iff⟩
  intro content m h base
  cases h
  case loaded hs =>
    have hsource := hs.source
    cases hc : m.nucleus.code <;> cases hf : m.nucleus.codeFile
    case some.none code => exact .inl ⟨code, rfl, rfl, sourceCode_of_code hc base⟩
    case none.some file => exact .inr ⟨file, rfl, rfl, sourceCode_of_file hc hf base⟩
    all_goals simp [hc, hf] at hsource

end Sources

-- A manifest, and no file in the place that it names.
def readChain (path : String) : Except StorageError String :=
  if path = "c/chain.json" then
    .ok "\x7b\"nucleus\":\x7b\"code\":null,\"code_file\":\"a\",\"type\":\"t\"\x7d,\"name\":\"n\"\x7d"
  else
    .error .notFound

theorem loaded_has_one_source_in_file :
    ∃ m, loadFrom readChain "c/chain.json" = .ok m ∧
      m.sourceCodeFrom readChain "c" = .error (.unreadable "c/a" .notFound) := by
  obtain ⟨⟨answer, hload, hanswer⟩, hsource, -⟩ :=
    @loaded_has_one_source Id _ _ readChain "c/chain.json"
  have hm : loadFrom readChain "c/chain.json" = .ok ⟨"n", "t", none, some "a"⟩ := by
    decide +kernel
  have ha : answer (readChain "c/chain.json") = .ok ⟨"n", "t", none, some "a"⟩ :=
    (congrArg Id.run hload).symm.trans hm
  refine ⟨_, hm, ?_⟩
  rcases hsource _ _ ((hanswer _ _).1 ha) "c" with ⟨_, ⟨⟩, -⟩ | ⟨_, -, ⟨⟩, hs⟩
  rw [sourceCodeFrom, hs]
  rfl

end Manifest
end ChainHost
