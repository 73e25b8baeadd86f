import ChainHost.Schema

namespace ChainHost

-- Why source code does not become a nucleus.
inductive LoadFailure where
  -- The code is no document of the right shape.
  | malformed (message : String)
  -- A function of bare text returns a constant that is no text.
  | constant (function : String)
  -- A pattern of the rules of an entry type cannot be compiled.
  | pattern (entry message : String)
  -- The rules of an entry type are partly for texts and partly for objects.
  | mixed (entry : String)
  | other (message : String)
  deriving DecidableEq, Repr

inductive Failure where
  | unknownType (requested : String) (available : List String)
  | notExposed (name : String)
  | schemaMismatch (target : String) (expected actual : Schema)
  | alreadyExposed (name : String)
  | exposureClosed (name : String)
  | invalidEntry (entry rule : String)
  | undecodable (message : String)
  | load (cause : LoadFailure)
  | failed (message : String)
  deriving DecidableEq, Repr

def LoadFailure.message : LoadFailure → String
  | malformed message => message
  | constant function =>
    "function `" ++ function ++ "` declares string schema but returns a non-string constant"
  | pattern entry message => "invalid pattern for entry `" ++ entry ++ "`: " ++ message
  | mixed entry => "entry `" ++ entry ++ "` mixes string rules with object rules"
  | other message => message

def Failure.message : Failure → String
  | unknownType _ available =>
    "invalid nucleus type; must be one of: " ++ String.intercalate ", " available
  | notExposed name => "function not found: " ++ name
  | schemaMismatch target expected actual =>
    "schema mismatch for `" ++ target ++ "`: expected " ++ expected.name ++ ", got " ++ actual.name
  | alreadyExposed name => "function already exposed: " ++ name
  | exposureClosed name => "cannot expose `" ++ name ++ "`: nucleus interfaces are sealed"
  | invalidEntry entry rule => "entry `" ++ entry ++ "` failed validation rule `" ++ rule ++ "`"
  | undecodable message => "failed to decode call params: " ++ message
  | load cause => "failed to load nucleus code: " ++ cause.message
  | failed message => "nucleus execution failed: " ++ message

-- The message for an unknown type does not depend on the type that was asked for.
theorem Failure.message_unknownType (a b : String) (available : List String) :
    (unknownType a available).message = (unknownType b available).message :=
  rfl

end ChainHost
