import ChainHost.Nucleus.Basic
import Mathlib.Data.List.Basic

namespace ChainHost

-- The first one of some interfaces with a name.
structure IsFirstNamed (interfaces : List Interface) (name : String) (i : Interface) : Prop where
  name_eq : i.name = name
  first   : ∃ before after, interfaces = before ++ i :: after ∧ ∀ j ∈ before, j.name ≠ name

theorem find?_name_eq_some_iff {interfaces : List Interface} {name : String} {i : Interface} :
    (interfaces.find? fun i => i.name == name) = some i ↔ IsFirstNamed interfaces name i := by
  rw [List.find?_eq_some_iff_append]
  constructor
  case mp =>
    rintro ⟨hn, before, after, he, hb⟩
    exact ⟨by simpa using hn, before, after, he, by simpa using hb⟩
  case mpr =>
    rintro ⟨hn, before, after, he, hb⟩
    exact ⟨by simpa using hn, before, after, he, by simpa using hb⟩

theorem IsFirstNamed.schemaOf?_eq {interfaces : List Interface} {name : String} {i : Interface}
    (h : IsFirstNamed interfaces name i) : schemaOf? interfaces name = some i.schema := by
  rw [schemaOf?, find?_name_eq_some_iff.2 h, Option.map_some]

-- Every name that is listed is listed for a first time.
theorem exists_isFirstNamed_iff {interfaces : List Interface} {name : String} :
    (∃ i, IsFirstNamed interfaces name i) ↔ name ∈ interfaces.map Interface.name := by
  have hs : (∃ i, (interfaces.find? fun i => i.name == name) = some i) ↔
      name ∈ interfaces.map Interface.name := by
    rw [← Option.isSome_iff_exists, List.find?_isSome]
    simp
  rw [← hs]
  exact exists_congr fun i => find?_name_eq_some_iff.symm

theorem Payload.exists_undecodable {schema : Schema} {raw : String} {e : Failure}
    (h : decode schema raw = .error e) : ∃ message, e = .undecodable message := by
  cases schema
  case string => cases h
  case json =>
    simp only [decode] at h
    split at h
    case h_1 => cases h
    case h_2 =>
      cases h
      exact ⟨_, rfl⟩

-- A nucleus, and the calls that it has got, with their params.
structure Watched (ν : Type) where
  nucleus : ν
  calls : List (String × Payload)

namespace Nucleus

variable {ν : Type} [Nucleus ν]

instance : Nucleus (Watched ν) where
  typeName w := typeName w.nucleus
  interfaces w := interfaces w.nucleus
  validate w := validate w.nucleus
  call w name p :=
    let (result, n) := call w.nucleus name p
    (result, ⟨n, w.calls ++ [(name, p)]⟩)

variable {n : ν} {name raw : String} {i : Interface}

theorem schemaOf_watched (calls : List (String × Payload)) :
    schemaOf (Watched.mk n calls) name = schemaOf n name :=
  rfl

theorem schemaOf_of_not_listed (h : name ∉ (interfaces n).map Interface.name) :
    schemaOf n name = .error (.notExposed name) := by
  rw [schemaOf, schemaOf?_eq_none_iff.2 h]

theorem schemaOf_of_isFirstNamed (h : IsFirstNamed (interfaces n) name i) :
    schemaOf n name = .ok i.schema := by
  rw [schemaOf, h.schemaOf?_eq]

theorem callEncoded_of_undecodable {schema : Schema} {e : Failure}
    (hs : schemaOf n name = .ok schema) (he : Payload.decode schema raw = .error e) :
    callEncoded n name raw = (.error e, n) := by
  simp only [callEncoded, hs, he]

theorem callEncoded_of_decode {schema : Schema} {p : Payload}
    (hs : schemaOf n name = .ok schema) (hp : Payload.decode schema raw = .ok p) :
    callEncoded n name raw = ((call n name p).1.map Payload.encode, (call n name p).2) := by
  simp only [callEncoded, hs, hp]

-- A watched nucleus answers as the one that it watches.
theorem callEncoded_watched (calls : List (String × Payload)) :
    callEncoded n name raw =
      ((callEncoded (Watched.mk n calls) name raw).1,
        (callEncoded (Watched.mk n calls) name raw).2.nucleus) := by
  cases hs : schemaOf n name
  case error e =>
    have hw := (schemaOf_watched calls).trans hs
    rw [callEncoded_of_notExposed hs, callEncoded_of_notExposed hw]
  case ok schema =>
    have hw := (schemaOf_watched calls).trans hs
    cases hp : Payload.decode schema raw
    case error e => rw [callEncoded_of_undecodable hs hp, callEncoded_of_undecodable hw hp]
    case ok p    => rw [callEncoded_of_decode hs hp, callEncoded_of_decode hw hp]; rfl

-- A nucleus is called once, under the name and with what the raw params are for the schema that the
-- name is first listed with; then its answer is passed on, and it is what the call has left. If there
-- is no such schema or no such payload, then it is not called, and it is what it was.
theorem callEncoded_calls_first_listed (n : ν) (calls : List (String × Payload))
    (name raw : String) :
    (callEncoded n name raw =
      ((callEncoded (Watched.mk n calls) name raw).1,
        (callEncoded (Watched.mk n calls) name raw).2.nucleus)) ∧
      (name ∉ (interfaces n).map Interface.name →
        callEncoded (Watched.mk n calls) name raw = (.error (.notExposed name), ⟨n, calls⟩)) ∧
      (name ∈ (interfaces n).map Interface.name → ∃ i, IsFirstNamed (interfaces n) name i) ∧
      ∀ i, IsFirstNamed (interfaces n) name i →
        (∀ e, Payload.decode i.schema raw = .error e →
          (∃ message, e = .undecodable message) ∧
            callEncoded (Watched.mk n calls) name raw = (.error e, ⟨n, calls⟩)) ∧
        ∀ p, Payload.decode i.schema raw = .ok p →
          callEncoded (Watched.mk n calls) name raw =
            ((call n name p).1.map Payload.encode,
              ⟨(call n name p).2, calls ++ [(name, p)]⟩) := by
  refine ⟨callEncoded_watched calls, ?unlisted, exists_isFirstNamed_iff.2, ?listed⟩
  case unlisted =>
    intro h
    have hw := (schemaOf_watched calls).trans (schemaOf_of_not_listed h)
    exact callEncoded_of_notExposed hw raw
  case listed =>
    intro i hi
    have hw := (schemaOf_watched calls).trans (schemaOf_of_isFirstNamed hi)
    constructor
    case left =>
      intro e he
      exact ⟨Payload.exists_undecodable he, callEncoded_of_undecodable hw he⟩
    case right =>
      intro p hp
      exact callEncoded_of_decode hw hp

section Example

-- Lists a name with both schemas, counts its calls, and fails at every second one.
structure Alternating where
  count : Nat

instance : Nucleus Alternating where
  typeName _ := "alternating"
  interfaces _ := [⟨"f", .json⟩, ⟨"g", .json⟩, ⟨"f", .string⟩]
  validate _ _ _ := .ok ()
  call n name p := (if n.count % 2 = 0 then .ok p else .error (.failed name), ⟨n.count + 1⟩)

theorem callEncoded_calls_first_listed_alternating :
    callEncoded (Watched.mk (Alternating.mk 0) []) "f" " [ ]" =
        (.ok "[]", ⟨⟨1⟩, [("f", .json (.array []))]⟩) ∧
      callEncoded (Watched.mk (Alternating.mk 1) []) "f" " [ ]" =
        (.error (.failed "f"), ⟨⟨2⟩, [("f", .json (.array []))]⟩) ∧
      callEncoded (Watched.mk (Alternating.mk 1) []) "f" "[" =
        (.error (.undecodable "EOF while parsing a list at line 1 column 1"), ⟨⟨1⟩, []⟩) ∧
      callEncoded (Watched.mk (Alternating.mk 1) []) "h" "[" =
        (.error (.notExposed "h"), ⟨⟨1⟩, []⟩) := by
  have hf (k : Nat) : IsFirstNamed (interfaces (Alternating.mk k)) "f" ⟨"f", .json⟩ :=
    ⟨rfl, [], _, rfl, nofun⟩
  have hp : Payload.decode .json " [ ]" = .ok (.json (.array [])) := rfl
  have he : Payload.decode .json "[" =
      .error (.undecodable "EOF while parsing a list at line 1 column 1") := rfl
  obtain ⟨-, -, -, first⟩ := callEncoded_calls_first_listed (Alternating.mk 0) [] "f" " [ ]"
  obtain ⟨-, -, -, second⟩ := callEncoded_calls_first_listed (Alternating.mk 1) [] "f" " [ ]"
  obtain ⟨-, -, -, unread⟩ := callEncoded_calls_first_listed (Alternating.mk 1) [] "f" "["
  obtain ⟨-, unlisted, -, -⟩ := callEncoded_calls_first_listed (Alternating.mk 1) [] "h" "["
  exact ⟨(first _ (hf 0)).2 _ hp, (second _ (hf 1)).2 _ hp, ((unread _ (hf 1)).1 _ he).2,
    unlisted (by decide)⟩

end Example
end Nucleus
end ChainHost
