import ChainHost.Logging.Level

namespace ChainHost

-- The version of the host.
def version : String := "0.1.0"

inductive Event where
  -- A nucleus has been loaded from a declaration.
  | loaded (functions rules : Nat)
  -- A type of nuclei has been registered.
  | registered (type : String)
  -- A nucleus is about to be built from code of some bytes.
  | creating (type : String) (codeBytes : Nat)
  | loggingStarted (level : Logging.Level) (directory : String)
  | panicCaptured (location payload : String)
  | chainStarted (chain type : String)
  deriving DecidableEq, Repr

namespace Event

def level : Event → Logging.Level
  | loaded .. => .debug
  | registered _ => .info
  | creating .. => .debug
  | loggingStarted .. => .info
  | panicCaptured .. => .error
  | chainStarted .. => .info

def message : Event → String
  | loaded functions rules =>
    "event=nucleus_load module=static status=ok functions=" ++ toString functions ++
      " entry_rules=" ++ toString rules
  | registered type => "event=nucleus_register module=registry status=ok type=" ++ type
  | creating type codeBytes =>
    "event=nucleus_create module=registry status=start type=" ++ type ++
      " code_bytes=" ++ toString codeBytes
  | loggingStarted level directory =>
    "event=logging_init module=logging status=ok level=" ++ level.lowerName ++
      " log_dir=" ++ directory ++ " version=" ++ version
  | panicCaptured location payload =>
    "event=panic_captured module=logging status=error location=" ++ location ++
      " payload=" ++ payload
  | chainStarted chain type =>
    "event=chain_start module=cli status=ok chain=" ++ chain ++ " type=" ++ type

-- The record of an event: its level and its message.
def record (e : Event) : String :=
  e.level.name ++ " " ++ e.message

end Event
end ChainHost
