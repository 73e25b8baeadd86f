import ChainHost.Manifest
import ChainHost.System

namespace ChainHost

namespace Manifest

section From

variable (read : String → Except StorageError String)

-- The manifest of a path, where files hold what `read` says.
def loadFrom (path : String) : Except ManifestError Manifest :=
  (load (μ := Id) read path).run

-- The source code of a manifest, where files hold what `read` says.
def sourceCodeFrom (m : Manifest) (base : String) : Except ManifestError String :=
  (m.sourceCode (μ := Id) read base).run

end From

variable {read read' : String → Except StorageError String}

theorem loadFrom_congr {path : String} (h : read' path = read path) :
    loadFrom read' path = loadFrom read path := by
  simp only [loadFrom, load, h]

theorem sourceCodeFrom_congr {m : Manifest} {base : String}
    (h : ∀ file, m.nucleus.codeFile = some file →
      read' (Path.join base file) = read (Path.join base file)) :
    m.sourceCodeFrom read' base = m.sourceCodeFrom read base := by
  rw [sourceCodeFrom, sourceCodeFrom, sourceCode, sourceCode]
  cases hc : m.nucleus.code
  case some => rfl
  case none =>
    cases hf : m.nucleus.codeFile
    case none      => rfl
    case some file => simp only [h file hf]

end Manifest

namespace World

variable {σ : Type} (w : World σ)

theorem run_read (path : String) (x : σ) :
    (w.system.read path).run x = pure (w.read x path, x) :=
  rfl

-- Reading a manifest and its code changes nothing.
theorem run_load (path : String) (x : σ) :
    (Manifest.load w.system.read path).run x = pure (Manifest.loadFrom (w.read x) path, x) := by
  rw [Manifest.loadFrom, Manifest.load, Manifest.load, StateT.run_bind, w.run_read, pure_bind]
  dsimp only [bind]
  cases w.read x path
  case error => rfl
  case ok text =>
    dsimp only
    cases Manifest.ofText text <;> rfl

theorem run_sourceCode (m : Manifest) (base : String) (x : σ) :
    (m.sourceCode w.system.read base).run x = pure (m.sourceCodeFrom (w.read x) base, x) := by
  rw [Manifest.sourceCodeFrom, Manifest.sourceCode, Manifest.sourceCode]
  cases m.nucleus.code
  case some code => rfl
  case none =>
    cases m.nucleus.codeFile
    case none => rfl
    case some file =>
      dsimp only
      rw [StateT.run_bind, w.run_read, pure_bind]
      dsimp only [bind]
      cases w.read x (Path.join base file) <;> rfl

end World
end ChainHost
