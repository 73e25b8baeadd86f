import ChainHost.Failure
import ChainHost.Logging.Logger
import Mathlib.Data.List.Infix

namespace ChainHost

namespace Text

-- A text with another one in it.
def Shows (text part : String) : Prop :=
  part.toList <:+: text.toList

namespace Shows

variable {text part : String}

theorem self (text : String) : Shows text text :=
  List.infix_rfl

theorem before (h : Shows text part) (after : String) : Shows (text ++ after) part := by
  rw [Shows, String.toList_append]
  exact h.trans (List.prefix_append _ _).isInfix

theorem after (h : Shows text part) (before : String) : Shows (before ++ text) part := by
  rw [Shows, String.toList_append]
  exact h.trans (List.suffix_append _ _).isInfix

end Shows

theorem shows_intercalate {s : String} {texts : List String} (h : s ∈ texts) (sep : String) :
    Shows (sep.intercalate texts) s := by
  induction texts
  case nil => cases h
  case cons t rest hi =>
    cases rest
    case nil =>
      cases List.mem_singleton.1 h
      rw [String.intercalate_singleton]
      exact .self s
    case cons t' rest =>
      rw [String.intercalate_cons_cons]
      rcases List.mem_cons.1 h with rfl | h
      case inl => exact ((Shows.self s).before sep).before _
      case inr => exact (hi h).after _

end Text

open Text (Shows)

-- What a failure to load is about, as its message shows it.
def LoadFailure.subjects : LoadFailure → List String
  | malformed message     => [message]
  | constant function     => [function]
  | pattern entry message => [entry, message]
  | mixed entry           => [entry]
  | other message         => [message]

theorem LoadFailure.shows_message {e : LoadFailure} {subject : String} (h : subject ∈ e.subjects) :
    Shows e.message subject := by
  cases e
  case malformed =>
    cases List.mem_singleton.1 h
    exact .self _
  case constant =>
    cases List.mem_singleton.1 h
    exact ((Shows.self _).after _).before _
  case pattern =>
    rcases List.mem_pair.1 h with rfl | rfl
    case inl => exact (((Shows.self _).after _).before _).before _
    case inr => exact (Shows.self _).after _
  case mixed =>
    cases List.mem_singleton.1 h
    exact ((Shows.self _).after _).before _
  case other =>
    cases List.mem_singleton.1 h
    exact .self _

-- What a failure is about. The message for an unknown type is about the types that are known.
def Failure.subjects : Failure → List String
  | unknownType _ available               => available
  | notExposed name                       => [name]
  | schemaMismatch target expected actual => [target, expected.name, actual.name]
  | alreadyExposed name                   => [name]
  | exposureClosed name                   => [name]
  | invalidEntry entry rule               => [entry, rule]
  | undecodable message                   => [message]
  | load cause                            => cause.subjects
  | failed message                        => [message]

theorem Failure.shows_message {e : Failure} {subject : String} (h : subject ∈ e.subjects) :
    Shows e.message subject := by
  cases e
  case unknownType => exact (Text.shows_intercalate h ", ").after _
  case schemaMismatch =>
    rcases List.mem_cons.1 h with rfl | h
    case inl => exact (((((Shows.self _).after _).before _).before _).before _).before _
    case inr =>
      rcases List.mem_pair.1 h with rfl | rfl
      case inl => exact (((Shows.self _).after _).before _).before _
      case inr => exact (Shows.self _).after _
  case exposureClosed =>
    cases List.mem_singleton.1 h
    exact ((Shows.self _).after _).before _
  case invalidEntry =>
    rcases List.mem_pair.1 h with rfl | rfl
    case inl => exact ((((Shows.self _).after _).before _).before _).before _
    case inr => exact ((Shows.self _).after _).before _
  case load => exact (LoadFailure.shows_message h).after _
  -- The others end with the one text that they are about.
  all_goals
    cases List.mem_singleton.1 h
    exact (Shows.self _).after _

namespace Logging

-- What a start with given settings that fails is about.
def StartFailure.subjects (s : Settings) : StartFailure → List String
  | noDirectory cause    => [s.directory, cause.message]
  | levelRefused message => [s.level.lowerName, message]
  | notStarted message   => [message]

theorem StartFailure.shows_message {s : Settings} {e : StartFailure} {subject : String}
    (h : subject ∈ e.subjects s) : Shows (e.message s) subject := by
  cases e
  case notStarted =>
    cases List.mem_singleton.1 h
    exact (Shows.self _).after _
  all_goals
    rcases List.mem_pair.1 h with rfl | rfl
    case inl => exact (((Shows.self _).after _).before _).before _
    case inr => exact (Shows.self _).after _

-- What an answer to a request for logging is about: how a start fails, or the settings that differ.
def StartError.subjects : StartError → List String
  | failed requested failure        => failure.subjects requested
  | otherDirectory active requested => [active, requested]
  | otherLevel active requested     => [active.lowerName, requested.lowerName]

theorem StartError.shows_message {e : StartError} {subject : String} (h : subject ∈ e.subjects) :
    Shows e.message subject := by
  cases e
  case failed => exact StartFailure.shows_message h
  all_goals
    rcases List.mem_pair.1 h with rfl | rfl
    case inl => exact ((((Shows.self _).after _).before _).before _).before _
    case inr => exact ((Shows.self _).after _).before _

end Logging
end ChainHost
