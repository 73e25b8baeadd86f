import ChainHost.Logging.Logger
import ChainHost.Logging.Panic
import ChainHost.Registry

namespace ChainHost

-- The registry of a host, and the nuclei that it has built, in their order.
structure Session (m : Type → Type) (η ν : Type) where
  registry : Registry m η ν
  nuclei : List ν

-- The nucleus that has been built, if there is one.
def Answer.built? {ν : Type} : Answer ν → Option ν
  | creation (.ok n, _) => some n
  | creation (.error _, _) | registration _ => none

-- The events of an answer.
def Answer.events {ν : Type} : Answer ν → List Event
  | registration (.ok event) => [event]
  | registration (.error _) => []
  | creation (_, events) => events

namespace Session

-- What a host does: it asks its registry, or uses the nucleus in a slot.
inductive Step (m : Type → Type) (η ν : Type) where
  | request (q : Request m η ν)
  | use (slot : Nat) (u : Nucleus.Use)

-- What comes of a step. There is no reply where the slot is empty.
inductive Result (ν : Type) where
  | request (answer : Answer ν)
  | use (reply : Option Nucleus.Reply)

def Result.events {ν : Type} : Result ν → List Event
  | request answer => answer.events
  | use _ => []

variable {m : Type → Type} {η ν π : Type}

def empty : Session m η ν := ⟨.empty, []⟩

variable [Monad m] [Nucleus ν] [PatternLanguage π] (embed : Declared π → ν)

-- Takes a step.
def take (s : Session m η ν) : Step m η ν → m (Result ν × Session m η ν)
  | .request q => do
    let (answer, registry) ← s.registry.serve embed q
    return (.request answer, ⟨registry, s.nuclei ++ answer.built?.toList⟩)
  | .use slot u =>
    match s.nuclei[slot]? with
    | none => return (.use none, s)
    | some n =>
      let (reply, n) := Nucleus.use n u
      return (.use (some reply), { s with nuclei := s.nuclei.set slot n })

-- Takes steps one after another.
def takeAll (s : Session m η ν) : List (Step m η ν) → m (List (Result ν) × Session m η ν)
  | [] => return ([], s)
  | step :: steps => do
    let (result, s) ← s.take embed step
    let (results, s) ← s.takeAll steps
    return (result :: results, s)

end Session

-- What happens in the process of a host that may leave records.
inductive Activity (m : Type → Type) (η ν : Type) where
  | logging (s : Logging.Settings)
  | session (step : Session.Step m η ν)
  | panic (p : Logging.Panic)

section Activities

variable {m : Type → Type} {η ν π : Type} [Monad m] [Nucleus ν] [PatternLanguage π]

-- What activities ask of the logger, one after another.
def Session.logged (embed : Declared π → ν) (s : Session m η ν) :
    List (Activity m η ν) → m (List Logging.Step)
  | [] => return []
  | .logging settings :: rest => do return .request settings :: (← s.logged embed rest)
  | .session step :: rest => do
    let (result, s) ← s.take embed step
    return result.events.map .report ++ (← s.logged embed rest)
  | .panic p :: rest => do return .report p.event :: (← s.logged embed rest)

end Activities
end ChainHost
