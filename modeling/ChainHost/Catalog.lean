import ChainHost.Failure
import ChainHost.Interface

namespace ChainHost

-- How far a nucleus has come.
inductive Stage where
  | constructed
  | loading
  | ready
  deriving DecidableEq, Repr

def Stage.name : Stage → String
  | constructed => "Constructed"
  | loading => "Loading"
  | ready => "Ready"

structure Catalog where
  interfaces : List Interface
  closed : Bool
  nodup : (interfaces.map Interface.name).Nodup

namespace Catalog

def empty : Catalog where
  interfaces := []
  closed := false
  nodup := by simp

instance : Inhabited Catalog := ⟨empty⟩

def schemaOf? (c : Catalog) (name : String) : Option Schema :=
  ChainHost.schemaOf? c.interfaces name

def stage (c : Catalog) : Stage :=
  if c.closed then .ready
  else if c.interfaces.isEmpty then .constructed
  else .loading

-- Fixes the interfaces for ever.
def close (c : Catalog) : Catalog :=
  { c with closed := true }

-- Exposes a function under a name of its own.
def expose (c : Catalog) (i : Interface) : Except Failure Catalog :=
  if c.closed then .error (.exposureClosed i.name)
  else if h : i.name ∈ c.interfaces.map Interface.name then .error (.alreadyExposed i.name)
  else .ok
    { c with
      interfaces := c.interfaces ++ [i]
      nodup := by
        rw [List.map_append, List.nodup_append]
        refine ⟨c.nodup, by simp, ?_⟩
        simp only [List.map_cons, List.map_nil, List.mem_singleton]
        rintro a ha _ rfl rfl
        exact h ha }

-- What a nucleus asks of its catalog.
inductive Action where
  | expose (i : Interface)
  | close
  deriving DecidableEq, Repr

-- The answer to an action, and the catalog after it. What is refused changes nothing.
def perform (c : Catalog) : Action → Except Failure Unit × Catalog
  | .expose i =>
    match c.expose i with
    | .ok d => (.ok (), d)
    | .error e => (.error e, c)
  | .close => (.ok (), c.close)

-- The catalog after a run of actions.
def after (c : Catalog) (actions : List Action) : Catalog :=
  actions.foldl (fun c a => (c.perform a).2) c

theorem interfaces_expose {c d : Catalog} {i : Interface} (h : c.expose i = .ok d) :
    d.interfaces = c.interfaces ++ [i] := by
  unfold expose at h
  split at h
  · cases h
  · split at h
    · cases h
    · cases h; rfl

@[simp]
theorem interfaces_close (c : Catalog) : c.close.interfaces = c.interfaces :=
  rfl

@[simp]
theorem close_close (c : Catalog) : c.close.close = c.close :=
  rfl

@[simp]
theorem stage_close (c : Catalog) : c.close.stage = .ready :=
  rfl

theorem expose_of_closed {c : Catalog} (h : c.closed = true) (i : Interface) :
    c.expose i = .error (.exposureClosed i.name) := by
  simp [expose, h]

end Catalog
end ChainHost
