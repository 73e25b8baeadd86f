import ChainHost.Json.Printer
import ChainHost.Json.Record
import ChainHost.Storage.Disk
import ChainHost.Text.Blank

namespace ChainHost

-- What a manifest says about the nucleus.
structure NucleusSection where
  type : String
  code : Option String
  codeFile : Option String
  deriving DecidableEq, Repr, Inhabited

structure Manifest where
  name : String
  nucleus : NucleusSection
  deriving DecidableEq, Repr, Inhabited

-- Why a manifest that can be read is refused.
inductive ManifestDefect where
  | emptyName
  | emptyType
  | bothSources
  | noSource
  deriving DecidableEq, Repr

inductive ManifestError where
  | unreadable (path : String) (cause : StorageError)
  | malformed (message : String)
  | invalid (defect : ManifestDefect)
  deriving DecidableEq, Repr

def ManifestDefect.message : ManifestDefect → String
  | emptyName => "chain name must not be empty"
  | emptyType => "nucleus type must not be empty"
  | bothSources => "nucleus declares both `code` and `code_file`"
  | noSource => "nucleus declares neither `code` nor `code_file`"

def ManifestError.message : ManifestError → String
  | unreadable path cause => "failed to read `" ++ path ++ "`: " ++ cause.message
  | malformed message => "invalid chain manifest: " ++ message
  | invalid defect => "chain manifest is invalid: " ++ defect.message

namespace NucleusSection

-- A section while it is being read.
structure Draft where
  type : Option String := none
  code : Option String := none
  codeFile : Option String := none

def layout : Json.Layout Draft NucleusSection where
  title := "NucleusSection"
  fields := [
    ⟨"type", fun room node draft => do
      return { draft with type := some (← Json.string room node) }⟩,
    ⟨"code", fun room node draft => do
      return { draft with code := ← Json.optional Json.string room node }⟩,
    ⟨"code_file", fun room node draft => do
      return { draft with codeFile := ← Json.optional Json.path room node }⟩]
  strict := true
  empty := { }
  finish draft := do
    return {
      type := ← Json.required "type" draft.type
      code := draft.code
      codeFile := draft.codeFile }

-- The section as an object, without the fields that are not there.
def toValue (s : NucleusSection) : Json.Value :=
  .object (("type", .string s.type) ::
    ((s.code.map fun code => ("code", Json.Value.string code)).toList ++
      (s.codeFile.map fun path => ("code_file", Json.Value.string path)).toList))

def text (s : NucleusSection) : String :=
  s.toValue.text

def ofText (text : String) : Except Json.Fault NucleusSection :=
  Json.decodeText layout.decode text

end NucleusSection

namespace Manifest

-- A manifest while it is being read.
structure Draft where
  name : Option String := none
  nucleus : Option NucleusSection := none

def layout : Json.Layout Draft Manifest where
  title := "ChainManifest"
  fields := [
    ⟨"name", fun room node draft => do
      return { draft with name := some (← Json.string room node) }⟩,
    ⟨"nucleus", fun room node draft => do
      return { draft with nucleus := some (← NucleusSection.layout.decode room node) }⟩]
  strict := true
  empty := { }
  finish draft := do
    return {
      name := ← Json.required "name" draft.name
      nucleus := ← Json.required "nucleus" draft.nucleus }

-- The text of a manifest, with its fields in their order.
def text (m : Manifest) : String :=
  (Json.Value.object [("name", .string m.name), ("nucleus", m.nucleus.toValue)]).text

-- Reads the text of a manifest, without a check of what it says.
def ofText (text : String) : Except Json.Fault Manifest :=
  Json.decodeText layout.decode text

-- What is wrong with a manifest: an empty name, an empty type, or not exactly one source.
def defect? (m : Manifest) : Option ManifestDefect :=
  if (Text.trim m.name).isEmpty then some .emptyName
  else if m.nucleus.type.isEmpty then some .emptyType
  else match m.nucleus.code, m.nucleus.codeFile with
    | some _, none | none, some _ => none
    | some _, some _ => some .bothSources
    | none, none => some .noSource

def check (m : Manifest) : Except ManifestError Unit :=
  match m.defect? with
  | some defect => .error (.invalid defect)
  | none => .ok ()

section Files

variable {μ : Type → Type} [Monad μ] (read : String → μ (Except StorageError String))

-- The source code, from the manifest itself or else from a file named relative to `base`.
def sourceCode (m : Manifest) (base : String) : μ (Except ManifestError String) :=
  match m.nucleus.code, m.nucleus.codeFile with
  | some code, _ => return .ok code
  | none, none => return .error (.invalid .noSource)
  | none, some file => do
    let path := Path.join base file
    match ← read path with
    | .ok code => return .ok code
    | .error cause => return .error (.unreadable path cause)

-- Reads a manifest from a file and checks it.
def load (path : String) : μ (Except ManifestError Manifest) := do
  match ← read path with
  | .error cause => return .error (.unreadable path cause)
  | .ok text =>
    match ofText text with
    | .error fault => return .error (.malformed (fault.message text))
    | .ok m => return m.check.map fun _ => m

end Files

-- The directory that a manifest's file names are relative to.
def baseOf (path : String) : String :=
  (Path.parent? path).getD "."

end Manifest
end ChainHost
