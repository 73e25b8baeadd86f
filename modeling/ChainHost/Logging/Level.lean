import ChainHost.Text.Blank

namespace ChainHost.Logging

inductive Level where
  | error
  | warn
  | info
  | debug
  | trace
  deriving DecidableEq, Repr, Inhabited

namespace Level

-- The name of a level, in upper case.
def name : Level → String
  | error => "ERROR"
  | warn => "WARN"
  | info => "INFO"
  | debug => "DEBUG"
  | trace => "TRACE"

-- The name of a level in lower case.
def lowerName : Level → String
  | error => "error"
  | warn => "warn"
  | info => "info"
  | debug => "debug"
  | trace => "trace"

def rank : Level → Nat
  | error => 1
  | warn => 2
  | info => 3
  | debug => 4
  | trace => 5

-- Whether records of the level `other` pass.
def admits (l other : Level) : Bool :=
  other.rank ≤ l.rank

-- The level that is used when none is given, in a build with debug assertions. In one without it is
-- `info`.
def default : Level := debug

-- Reads the name of a level without regard to the case of its letters and to blanks around it. A
-- warning is the same as `warn`.
def ofName? (text : String) : Option Level :=
  let name := (Text.trim text).map Char.toLower
  if name = "warning" then some warn
  else [error, warn, info, debug, trace].find? fun l => l.lowerName == name

end Level
end ChainHost.Logging
