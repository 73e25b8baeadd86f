import ChainHost.Manifest
import ChainHost.Registry
import ChainHost.System

namespace ChainHost

-- How a run ends: its exit code, and what it has written.
structure Outcome where
  exit : Nat
  output : String
  errors : String
  deriving DecidableEq, Repr, Inhabited

namespace CommandLine

def usage : String :=
  "usage: nucleus_cli --version\n" ++
    "       nucleus_cli <chain-manifest.json> [function [params]]\n" ++
    "       nucleus_cli <chain-manifest.json> --validate <entry> <string|json> <value>"

def versionLine : String :=
  "nucleus_core version=" ++ version

-- What a chain is asked for.
inductive Command where
  | list
  | call (function params : String)
  | validate (entry format value : String)
  | unusable
  deriving DecidableEq, Repr

-- The command that the arguments after the manifest make.
def Command.ofArguments : List String → Command
  | [] => list
  | ["--validate", entry, format, value] => validate entry format value
  | "--validate" :: _ => unusable
  | [function] => call function ""
  | function :: params :: _ => call function params

-- Why a run fails.
inductive RunError where
  | manifest (error : ManifestError)
  | nucleus (failure : Failure)
  | unsupportedSchema (text : String)
  | unusable
  deriving DecidableEq, Repr

def RunError.message : RunError → String
  | manifest error => error.message
  | nucleus failure => failure.message
  | unsupportedSchema text => Schema.unsupportedMessage text
  | unusable => usage

section Answer

variable {ν : Type} [Nucleus ν]

def interfaceLine (i : Interface) : String :=
  "interface=" ++ i.name ++ " schema=" ++ i.schema.name

-- Validates a value against the rules for an entry type.
def validateEntry (n : ν) (entry format value : String) : Except RunError String :=
  match Schema.ofName? format with
  | none => .error (.unsupportedSchema format)
  | some s =>
    match (Payload.decode s value).bind fun p => Nucleus.validate n ⟨entry, s⟩ p with
    | .ok () => .ok ("valid entry=" ++ entry ++ " schema=" ++ s.name)
    | .error failure => .error (.nucleus failure)

-- The lines that answer a command.
def answer (n : ν) : Command → Except RunError (List String)
  | .list => .ok (("nucleus=" ++ Nucleus.typeName n) :: (Nucleus.interfaces n).map interfaceLine)
  | .call function params =>
    match (Nucleus.callEncoded n function params).1 with
    | .ok text => .ok [text]
    | .error failure => .error (.nucleus failure)
  | .validate entry format value => (validateEntry n entry format value).map fun line => [line]
  | .unusable => .error .unusable

end Answer

section Run

variable {μ : Type → Type} [Monad μ] {π : Type} [PatternLanguage π] (sys : System μ)

-- Starts logging as the environment asks for it, and warns if that fails.
def startLogging (e : Logging.Environment) : μ (Logging.Logger × List String) := do
  match Logging.Settings.ofEnvironment e with
  | .ok none => return (.idle, [])
  | .error error => return (.idle, ["warning: logging disabled: " ++ error.message])
  | .ok (some s) =>
    let (result, logger) ← sys.requestLogging .idle s
    match result with
    | .ok () => return (logger, [])
    | .error error => return (logger, ["warning: logging disabled: " ++ error.message])

variable (μ π) in
-- The registry of the program, which knows declared nuclei, and the event of its making.
def registry :
    Except RegistrationError (Registry μ Manifest (Declared π) × Event) :=
  Registry.empty.registerBuiltin id

-- Starts the chain of a manifest and answers a command.
def runChain (registry : Registry μ Manifest (Declared π)) (logger : Logging.Logger) (path : String)
    (command : Command) : μ (Except RunError (List String)) := do
  match ← Manifest.load sys.read path with
  | .error error => return .error (.manifest error)
  | .ok manifest =>
    match ← manifest.sourceCode sys.read (Manifest.baseOf path) with
    | .error error => return .error (.manifest error)
    | .ok code =>
      let (created, events) ← registry.create manifest manifest.nucleus.type code
      sys.recordAll logger events
      match created with
      | .error failure => return .error (.nucleus failure)
      | .ok nucleus =>
        sys.recordAll logger [.chainStarted manifest.name (Nucleus.typeName nucleus)]
        return answer nucleus command

def unlines (lines : List String) : String :=
  String.join (lines.map (· ++ "\n"))

variable (π) in
-- Runs the program with the arguments after its name, for nuclei with patterns of the language `π`. An
-- answer is written as a whole, and only errors go to the error output.
def run (e : Logging.Environment) (arguments : List String) : μ Outcome := do
  let (logger, warnings) ← startLogging sys e
  match arguments with
  | [] => return ⟨64, "", unlines (warnings ++ [usage])⟩
  | "--version" :: _ => return ⟨0, unlines [versionLine], unlines warnings⟩
  | path :: rest =>
    match registry μ π with
    | .error error => return ⟨2, "", unlines (warnings ++ ["fatal: " ++ error.message])⟩
    | .ok (registry, event) =>
      sys.recordAll logger [event]
      match ← runChain sys registry logger path (.ofArguments rest) with
      | .ok lines => return ⟨0, unlines lines, unlines warnings⟩
      | .error error => return ⟨1, "", unlines (warnings ++ ["error: " ++ error.message])⟩

end Run
end CommandLine
end ChainHost
