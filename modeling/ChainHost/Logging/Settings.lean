import ChainHost.Logging.Level
import ChainHost.Storage.Path

namespace ChainHost.Logging

structure Settings where
  level : Level
  directory : String
  deriving DecidableEq, Repr, Inhabited

-- Why settings cannot be used.
inductive SettingsError where
  | unsupportedLevel (text : String)
  | emptyDirectory
  | relativeDirectory (text : String)
  deriving DecidableEq, Repr

def SettingsError.message : SettingsError → String
  | unsupportedLevel text =>
    "unsupported log level `" ++ text ++ "`; expected trace|debug|info|warn|error"
  | emptyDirectory => "log_dir cannot be empty"
  | relativeDirectory text => "log_dir must be an absolute path, got `" ++ text ++ "`"

def readLevel (text : String) : Except SettingsError Level :=
  match Level.ofName? text with
  | some level => .ok level
  | none => .error (.unsupportedLevel (Text.trim text))

-- Reads a directory, which has to be absolute.
def readDirectory (text : String) : Except SettingsError String :=
  let directory := Text.trim text
  if directory.isEmpty then .error .emptyDirectory
  else if Path.isAbsolute directory then .ok directory
  else .error (.relativeDirectory directory)

-- What the environment says about logging: the texts of the two variables that are set.
structure Environment where
  directory : Option String
  level : Option String
  deriving DecidableEq, Repr, Inhabited

-- The environment as its two variables are set, byte for byte. Bytes that are no text count as
-- unset.
def Environment.ofBytes (directory level : Option ByteArray) : Environment where
  directory := directory.bind String.fromUTF8?
  level := level.bind String.fromUTF8?

namespace Settings

-- Settings from the texts of a level and of a directory.
def ofTexts (level directory : String) : Except SettingsError Settings := do
  let level ← readLevel level
  let directory ← readDirectory directory
  return { level, directory }

-- Settings from the environment. There are none where no directory is given.
def ofEnvironment (e : Environment) : Except SettingsError (Option Settings) :=
  match e.directory with
  | none => .ok none
  | some directory => do
    let level ← match e.level with
      | some text => readLevel text
      | none => .ok Level.default
    let directory ← readDirectory directory
    return some { level, directory }

-- Whether two settings write the same records to the same directory.
def sameDirectory (s t : Settings) : Bool :=
  Path.same s.directory t.directory

end Settings
end ChainHost.Logging
