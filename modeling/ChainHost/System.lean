import ChainHost.Logging.Logger

namespace ChainHost

-- What the host needs of the world outside.
structure System (μ : Type → Type) where
  read : String → μ (Except StorageError String)
  -- Gets ready to write records with given settings.
  startLogging : Logging.Settings → μ (Except Logging.StartFailure Unit)
  -- Writes the record of an event.
  record : Logging.Settings → Event → μ Unit

namespace System

variable {μ : Type → Type} [Monad μ] (sys : System μ)

-- Writes the records of those events that are let through.
def recordAll (logger : Logging.Logger) (events : List Event) : μ Unit :=
  match logger.active with
  | none => return ()
  | some s => (logger.written events).forM (sys.record s)

-- Asks for logging; a start that succeeds is the first event to be recorded.
def requestLogging (logger : Logging.Logger) (s : Logging.Settings) :
    μ (Except Logging.StartError Unit × Logging.Logger) := do
  let (result, after) ← logger.request s sys.startLogging
  sys.recordAll after (Logging.Logger.startEvents logger after)
  return (result, after)

-- Takes steps one after another; the answers are those to the requests.
def takeSteps (logger : Logging.Logger) :
    List Logging.Step → μ (List (Except Logging.StartError Unit) × Logging.Logger)
  | [] => return ([], logger)
  | .request s :: rest => do
    let (answer, logger) ← sys.requestLogging logger s
    let (answers, logger) ← takeSteps logger rest
    return (answer :: answers, logger)
  | .report e :: rest => do
    sys.recordAll logger [e]
    takeSteps logger rest

end System

-- A world outside that is a state.
structure World (σ : Type) where
  read : σ → String → Except StorageError String
  startLogging : σ → Logging.Settings → Except Logging.StartFailure Unit × σ
  record : σ → Logging.Settings → Event → σ
  -- What logging itself has written on the error output, beside its records.
  errors : σ → String

def World.system {σ : Type} (w : World σ) : System (StateM σ) where
  read path := do return w.read (← get) path
  startLogging s := modifyGet fun x => w.startLogging x s
  record s e := modify fun x => w.record x s e

namespace Disk

-- The name of the file in the log directory.
def logFile : String := "nucleus_rCURRENT.log"

-- A tree of files as the world outside; paths that are not absolute start in `home`. A start fails only
-- for its directory, and the log is one file that grows at once: it is left out that records are buffered,
-- that a file of 10 MiB makes room for a new one, and that all but five of the old ones are deleted.
def world (home : String) : World Disk where
  read disk path := disk.read home path
  startLogging disk s :=
    let (result, disk) := disk.makeDirectories home s.directory
    (result.mapError .noDirectory, disk)
  record disk s e := disk.append home s.directory logFile (e.record ++ "\n")
  errors _ := ""

def system (home : String) : System (StateM Disk) :=
  (world home).system

end Disk
end ChainHost
