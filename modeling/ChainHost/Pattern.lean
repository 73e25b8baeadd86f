import ChainHost.Pattern.Match
import ChainHost.Pattern.Translate
import ChainHost.Pattern.Weight

namespace ChainHost

-- A language of patterns: which texts are patterns, and what they match.
class PatternLanguage (π : Type) where
  compile : String → Except String π
  isMatch : π → String → Bool

-- A compiled pattern.
structure Pattern where
  meaning : Pattern.Meaning

namespace Pattern

def compile (text : String) : Except CompileError Pattern :=
  match (Ast.ofText text).bind (Ast.meaning .initial) with
  | .error e => .error (.invalid e)
  | .ok (meaning, _) => if meaning.tooLarge then .error .tooLarge else .ok ⟨meaning⟩

-- Whether the pattern matches somewhere in a text.
def isMatch (p : Pattern) (text : String) : Bool :=
  p.meaning.matches text

instance : PatternLanguage Pattern where
  compile text := (compile text).mapError (CompileError.message text)
  isMatch := isMatch

end Pattern
end ChainHost
