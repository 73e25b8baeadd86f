import ChainHost.Proofs.Manifest.Load
import ChainHost.Proofs.Storage.Path

namespace ChainHost.Manifest

variable {m : Manifest} {path file : String} {content : Except StorageError String}

-- A sound manifest is loaded from its own text.
theorem loadFrom_text (hs : m.Sound) (path : String) :
    loadFrom (fun _ => .ok m.text) path = .ok m :=
  loadFrom_eq_iff.2 (.loaded (ofText_eq_ok_iff_saidBy.1 (ofText_text m)) hs)

theorem exists_loaded (file path : String) : ∃ text m,
    loadFrom (fun _ => .ok text) path = .ok m ∧ m.nucleus.codeFile = some file := by
  have hc : 'c' ∈ "chain".toList := by decide
  have ht : "static" ≠ "" := by decide
  have hs : Sound ⟨"chain", "static", none, some file⟩ :=
    ⟨fun h => absurd (h 'c' hc) (by decide), ht, by simp⟩
  exact ⟨_, _, loadFrom_text hs path, rfl⟩

variable {μ : Type → Type} [Monad μ] [LawfulMonad μ]

theorem sourceCode_of_loaded (read : String → μ (Except StorageError String))
    (hm : loadFrom (fun _ => content) path = .ok m) (hf : m.nucleus.codeFile = some file)
    (base : String) :
    m.sourceCode read base =
      Except.mapError (.unreadable (Path.join base file)) <$> read (Path.join base file) := by
  cases loadFrom_eq_iff.1 hm
  case loaded hs =>
    have hc : m.nucleus.code = none := by simpa [hf] using hs.source
    exact sourceCode_of_file hc hf base

-- All that is read for the code, and named if it cannot be, is the path from the base on. It leads
-- on from there unless it is absolute and the base has parts; then it is the same for every base.
theorem code_is_read_below_base_unless_absolute (read : String → μ (Except StorageError String)) :
    (∀ content path m file, loadFrom (fun _ => content) path = .ok m →
      m.nucleus.codeFile = some file → ∀ base,
        m.sourceCode read base =
          Except.mapError (.unreadable (Path.join base file)) <$> read (Path.join base file) ∧
        (Path.LeadsOn base file (Path.join base file) ↔
          Path.isAbsolute file = false ∨ Path.isAbsolute base = true ∧ Path.way base = []) ∧
        (Path.isAbsolute file = false → base.toList <+: (Path.join base file).toList) ∧
        (Path.isAbsolute file = true → Path.join base file = file)) ∧
    ∀ file path, ∃ text m,
      loadFrom (fun _ => .ok text) path = .ok m ∧ m.nucleus.codeFile = some file := by
  refine ⟨?_, exists_loaded⟩
  intro content path m file hm hf base
  exact ⟨sourceCode_of_loaded read hm hf base, Path.leadsOn_join_iff,
    fun hr => Path.prefix_join hr base, fun ha => Path.join_of_isAbsolute ha base⟩

-- A manifest, the code beside it, and other code at the root, which is the one that it names.
def readApps (path : String) : Except StorageError String :=
  if path = "c/chain.json" then
    .ok "\x7b\"name\":\"n\",\"nucleus\":\x7b\"type\":\"t\",\"code_file\":\"/app.json\"\x7d\x7d"
  else if path = "c/app.json" then .ok "app"
  else if path = "/app.json" then .ok "other"
  else .error .notFound

theorem code_is_read_from_root :
    ∃ m, loadFrom readApps "c/chain.json" = .ok m ∧ m.nucleus.codeFile = some "/app.json" ∧
      m.sourceCodeFrom readApps "c" = .ok "other" ∧
      ¬Path.LeadsOn "c" "/app.json" (Path.join "c" "/app.json") := by
  have hm : loadFrom readApps "c/chain.json" = .ok ⟨"n", "t", none, some "/app.json"⟩ := by
    decide +kernel
  have hcontent : loadFrom (fun _ => readApps "c/chain.json") "c/chain.json" =
      loadFrom readApps "c/chain.json" := loadFrom_congr rfl
  obtain ⟨hread, -⟩ := @code_is_read_below_base_unless_absolute Id _ _ readApps
  obtain ⟨hs, hbelow, -, habsolute⟩ := hread _ _ _ _ (hcontent.trans hm) rfl "c"
  have hsource : Manifest.sourceCodeFrom readApps ⟨"n", "t", none, some "/app.json"⟩ "c" =
      .ok "other" := by
    rw [sourceCodeFrom, hs, habsolute (by decide)]
    decide +kernel
  exact ⟨_, hm, rfl, hsource, by rw [hbelow]; decide⟩

end ChainHost.Manifest
