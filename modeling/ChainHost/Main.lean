import ChainHost.CommandLine

namespace ChainHost.Main

-- The cause of a failed access to a file.
def causeOf : IO.Error → StorageError
  | .noFileOrDirectory .. => .notFound
  | .alreadyExists .. => .alreadyExists
  | .inappropriateType _ code _ => if code = 21 then .isDirectory else .notDirectory
  | .illegalOperation .. => .isDirectory
  | error => .other (toString error)

def readFile (path : String) : IO (Except StorageError String) := do
  if '\x00' ∈ path.toList then return .error .nulInName
  match ← (IO.FS.readBinFile path).toBaseIO with
  | .ok bytes =>
    match String.fromUTF8? bytes with
    | some text => return .ok text
    | none => return .error .notUtf8
  | .error error => return .error (causeOf error)

def startLogging (s : Logging.Settings) : IO (Except Logging.StartFailure Unit) := do
  match ← (IO.FS.createDirAll s.directory).toBaseIO with
  | .ok () => return .ok ()
  | .error error => return .error (.noDirectory (causeOf error))

def record (s : Logging.Settings) (e : Event) : IO Unit := do
  let write := IO.FS.withFile (Path.join s.directory Disk.logFile) .append fun h =>
    h.putStrLn e.record
  let _ ← write.toBaseIO

def system : System IO where
  read := readFile
  startLogging := startLogging
  record := record

end ChainHost.Main

open ChainHost in
def main (arguments : List String) : IO UInt32 := do
  let environment : Logging.Environment := {
    directory := ← IO.getEnv "NUCLEUS_LOG_DIR"
    level := ← IO.getEnv "NUCLEUS_LOG_LEVEL" }
  let outcome ← CommandLine.run Pattern Main.system environment arguments
  (← IO.getStderr).putStr outcome.errors
  (← IO.getStdout).putStr outcome.output
  return outcome.exit.toUInt32
