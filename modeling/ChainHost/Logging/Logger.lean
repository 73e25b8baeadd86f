import ChainHost.Event
import ChainHost.Logging.Settings
import ChainHost.Storage.Disk

namespace ChainHost.Logging

-- Why a start fails: the directory cannot be made, the level is refused, or records cannot be
-- taken.
inductive StartFailure where
  | noDirectory (cause : StorageError)
  | levelRefused (message : String)
  | notStarted (message : String)
  deriving DecidableEq, Repr

-- The message for a start with given settings.
def StartFailure.message (s : Settings) : StartFailure → String
  | noDirectory cause => "failed to create log directory `" ++ s.directory ++ "`: " ++ cause.message
  | levelRefused message => "invalid log level `" ++ s.level.lowerName ++ "`: " ++ message
  | notStarted message => "failed to start logger: " ++ message

-- Why a request for logging fails.
inductive StartError where
  | failed (requested : Settings) (failure : StartFailure)
  | otherDirectory (active requested : String)
  | otherLevel (active requested : Level)
  deriving DecidableEq, Repr

def StartError.message : StartError → String
  | failed requested failure => failure.message requested
  | otherDirectory active requested =>
    "logging already initialized at `" ++ active ++ "`; refusing to switch to `" ++ requested ++ "`"
  | otherLevel active requested =>
    "logging already initialized with level `" ++ active.lowerName ++ "`; refusing to switch to `" ++
      requested.lowerName ++ "`"

-- What a process does with its logger.
inductive Step where
  | request (s : Settings)
  | report (e : Event)
  deriving DecidableEq, Repr

-- The logger of a process: the settings with which it has been started, if it has.
structure Logger where
  active : Option Settings
  deriving DecidableEq, Repr, Inhabited

namespace Logger

-- No start has succeeded yet.
def idle : Logger := ⟨none⟩

-- Compares a request with the active settings, the directory first.
def agree (active requested : Settings) : Except StartError Unit :=
  if !active.sameDirectory requested then
    .error (.otherDirectory active.directory requested.directory)
  else if active.level ≠ requested.level then
    .error (.otherLevel active.level requested.level)
  else .ok ()

-- Whether records of the event's level are written.
def admits (l : Logger) (e : Event) : Bool :=
  l.active.any fun s => s.level.admits e.level

-- Those of some events that are written.
def written (l : Logger) (events : List Event) : List Event :=
  events.filter l.admits

section Start

variable {μ : Type → Type} [Monad μ]

-- Asks for logging. `start` tries to start with given settings; it is run only if no start has
-- succeeded before.
def request (l : Logger) (s : Settings) (start : Settings → μ (Except StartFailure Unit)) :
    μ (Except StartError Unit × Logger) :=
  match l.active with
  | some active => return (agree active s, l)
  | none => do
    match ← start s with
    | .ok () => return (.ok (), ⟨some s⟩)
    | .error failure => return (.error (.failed s failure), l)

end Start

-- The events of a request: a start that succeeds is the first one to be recorded.
def startEvents (before after : Logger) : List Event :=
  match before.active, after.active with
  | none, some s => [.loggingStarted s.level s.directory]
  | _, _ => []

end Logger
end ChainHost.Logging
