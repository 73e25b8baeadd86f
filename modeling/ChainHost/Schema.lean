namespace ChainHost

-- How a payload is written: as bare text, or as a JSON document.
inductive Schema where
  | string
  | json
  deriving DecidableEq, Repr, Inhabited

namespace Schema

-- The name of a schema, in lower case.
def name : Schema → String
  | string => "string"
  | json => "json"

-- Reads a name, which has to be spelled exactly.
def ofName? (text : String) : Option Schema :=
  if text = string.name then some string
  else if text = json.name then some json
  else none

-- The message for a text that names no schema.
def unsupportedMessage (text : String) : String :=
  "interface schema is unsupported: " ++ text ++ " (expected string|json)"

@[simp]
theorem ofName?_name (s : Schema) : ofName? s.name = some s := by
  cases s <;> decide

theorem ofName?_eq_some_iff {text : String} {s : Schema} :
    ofName? text = some s ↔ text = s.name := by
  constructor
  · unfold ofName?
    split
    · rintro ⟨⟩; assumption
    · split
      · rintro ⟨⟩; assumption
      · rintro ⟨⟩
  · rintro rfl
    exact ofName?_name s

theorem name_injective {s t : Schema} (h : s.name = t.name) : s = t := by
  cases s <;> cases t <;> first | rfl | exact absurd h (by decide)

end Schema
end ChainHost
