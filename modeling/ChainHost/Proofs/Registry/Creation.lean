import ChainHost.Proofs.Messages
import ChainHost.Proofs.Registry.Run

namespace ChainHost

theorem Declared.result_build {η π : Type} [PatternLanguage π] (host : η) (code : String) :
    (build (π := π) host code).1 = load code := by
  unfold build
  split <;> simp_all

namespace Registry

variable {m : Type → Type} [Monad m] {η ν π : Type} [PatternLanguage π] (embed : Declared π → ν)

section Create

variable {r : Registry m η ν} {f : Factory m η ν}

theorem create_of_factory? {type : String} (h : r.factory? type = some f) (host : η)
    (code : String) :
    r.create host type code = do
      let (result, events) ← f host code
      return (result, .creating type code.utf8ByteSize :: events) := by
  rw [create, h]

theorem create_of_not_mem {type : String} (h : type ∉ r.typeNames) (host : η) (code : String) :
    r.create host type code = pure (.error (.unknownType type r.typeNames), []) := by
  rw [create, factory?_eq_none_iff.2 h]

theorem result_create_builtin [LawfulMonad m]
    (h : r.factory? Declared.typeName = some (.ofDeclared embed)) (host : η) (code : String) :
    Prod.fst <$> r.create host Declared.typeName code = pure ((Declared.load code).map embed) := by
  rw [create_of_factory? h, ← Declared.result_build host code]
  simp [Factory.ofDeclared]

end Create

section Requests

-- The registrations among requests.
def registrations (qs : List (Request m η ν)) : List (Registration m η ν) :=
  qs.filterMap fun
    | .registration g => some g
    | .creation ..    => none

-- Requests lead to what their registrations lead to, and what is built last is built there.
theorem serveAll_append_creation [LawfulMonad m] (r : Registry m η ν) (qs : List (Request m η ν))
    (host : η) (type code : String) :
    r.serveAll embed (qs ++ [.creation host type code]) = do
      let (answers, _) ← r.serveAll embed qs
      let made ← (r.after embed (registrations qs)).create host type code
      return (answers ++ [.creation made], r.after embed (registrations qs)) := by
  induction qs generalizing r
  case nil => simp [serveAll, serve, registrations, after]
  case cons q qs hi =>
    cases q
    case registration g =>
      have hg : registrations (.registration g :: qs) = g :: registrations qs := rfl
      simp [serveAll, serve, hi, hg, after_cons]
    case creation host' type' code' =>
      have hg : registrations (.creation host' type' code' :: qs) = registrations qs := rfl
      simp [serveAll, serve, hi, hg]

-- The registry that requests to a new one lead to.
def reached (qs : List (Request m η ν)) : Registry m η ν :=
  empty.after embed (registrations qs)

-- The registrations that are taken on the way, of each name one at most.
def takenOf (qs : List (Request m η ν)) : List (Registration m η ν) :=
  empty.taken embed (registrations qs)

theorem mem_typeNames_reached {qs : List (Request m η ν)} {name : String} :
    name ∈ (reached embed qs).typeNames ↔ ∃ g ∈ takenOf embed qs, g.name = name :=
  (typeNames_after_empty_perm embed (registrations qs)).mem_iff.trans List.mem_map

-- After any requests a nucleus is built by one call of the factory that has been taken under the
-- name of its type; a declared nucleus is what its code is loaded as. Where there is no factory none
-- is called, and the answer shows the names of those that there are.
theorem creates_with_registered_factory [LawfulMonad m] (qs : List (Request m η ν)) (host : η)
    (type code : String) :
    (empty.serveAll embed (qs ++ [.creation host type code]) = do
        let (answers, _) ← empty.serveAll embed qs
        let made ← (reached embed qs).create host type code
        return (answers ++ [.creation made], reached embed qs)) ∧
      (∀ g ∈ takenOf embed qs, g.name = type → ∃ f, g.factory? embed = some f ∧
        (reached embed qs).create host type code = do
          let (result, events) ← f host code
          return (result, .creating type code.utf8ByteSize :: events)) ∧
      ((∀ g ∈ takenOf embed qs, g.name ≠ type) →
        (reached embed qs).create host type code =
            pure (.error (.unknownType type (reached embed qs).typeNames), []) ∧
          type ∉ (reached embed qs).typeNames ∧
          (∀ g ∈ takenOf embed qs, g.name.toList <:+:
            (Failure.unknownType type (reached embed qs).typeNames).message.toList) ∧
          ∀ type', (Failure.unknownType type' (reached embed qs).typeNames).message =
            (Failure.unknownType type (reached embed qs).typeNames).message) ∧
      (.builtin ∈ takenOf embed qs →
        Prod.fst <$> (reached embed qs).create host Declared.typeName code =
          pure ((Declared.load code).map embed)) := by
  refine ⟨serveAll_append_creation embed empty qs host type code, ?known, ?unknown, ?builtin⟩
  case known =>
    intro g hg hn
    obtain ⟨f, hf, hr⟩ := factory?_after_of_mem_taken embed hg
    exact ⟨f, hf, create_of_factory? (hn ▸ hr) host code⟩
  case unknown =>
    intro hn
    have hm : type ∉ (reached embed qs).typeNames := by
      rw [mem_typeNames_reached]
      rintro ⟨g, hg, he⟩
      exact hn g hg he
    refine ⟨create_of_not_mem hm host code, hm, fun g hg => ?_, fun type' => ?_⟩
    · exact Failure.shows_message ((mem_typeNames_reached embed).2 ⟨g, hg, rfl⟩)
    · exact Failure.message_unknownType _ _ _
  case builtin =>
    intro hb
    obtain ⟨f, hf, hr⟩ := factory?_after_of_mem_taken embed hb
    cases hf
    exact result_create_builtin embed hr host code

section Example

-- A factory that leaves a trace of each call: its own label, the host and the code.
def traced (label : String) : Factory (StateM (List (String × String × String))) String Nat :=
  fun host code => do
    modify fun trace => trace ++ [(label, host, code)]
    return (.ok code.length, [])

-- A factory that is taken and called, one that is late, and the types that come with the host.
def tracedRequests : List (Request (StateM (List (String × String × String))) String Nat) :=
  [.registration (.factory "b" (traced "first")), .registration (.factory "b" (traced "late")),
    .creation "h" "b" "", .registration .builtin, .registration (.factory "B" (traced "other"))]

theorem creates_with_registered_factory_traced :
    ((reached embedZero tracedRequests).create "host" "b" "code").run [] =
        ((.ok 4, [.creating "b" 4]), [("first", "host", "code")]) ∧
      (reached embedZero tracedRequests).create "host" "c" "code" =
        pure (.error (.unknownType "c" ["B", "b", "static"]), []) ∧
      Prod.fst <$> (reached embedZero tracedRequests).create "host" Declared.typeName "[[], []]" =
        pure ((Declared.load "[[], []]").map embedZero) := by
  have ht : takenOf embedZero tracedRequests =
      [.factory "b" (traced "first"), .builtin, .factory "B" (traced "other")] := rfl
  obtain ⟨-, hb, -⟩ := creates_with_registered_factory embedZero tracedRequests "host" "b" "code"
  obtain ⟨-, -, hc, -⟩ := creates_with_registered_factory embedZero tracedRequests "host" "c" "code"
  obtain ⟨-, -, -, hs⟩ :=
    creates_with_registered_factory embedZero tracedRequests "host" "static" "[[], []]"
  refine ⟨?_, (hc ?_).1, hs ?_⟩
  · obtain ⟨f, hf, hr⟩ := hb (.factory "b" (traced "first")) (by simp [ht]) rfl
    cases hf
    rw [hr]
    rfl
  · rw [ht]
    decide
  · simp [ht]

end Example
end Requests

end Registry
end ChainHost
