import Mathlib
import ChainHost.Payload
import ChainHost.Proofs.Json.RoundTrip

namespace ChainHost.Payload

-- The numbers of a payload. Bare text has none, whatever it looks like.
def numbers (p : Payload) : List Json.Number :=
  p.toValue.numbers

variable {s : Schema} {raw : String} {p : Payload}

theorem encode_of_decode_string (h : decode .string raw = .ok p) : p.encode = raw := by
  cases h
  rfl

-- What has been read from the wire and holds no double is read again from what is written for it.
theorem decode_encode (h : decode s raw = .ok p) (hn : ∀ n ∈ p.numbers, n.IsInteger) :
    decode s p.encode = .ok p := by
  cases s
  case string => cases h; rfl
  case json =>
    simp only [decode] at h
    split at h <;> cases h
    case h_1 v hv =>
      simp only [decode, encode, Json.Value.ofText_text (Json.Value.readable_of_ofText hv) hn]

-- Reading keeps the schema and bare text, and payloads without doubles come back from the wire as
-- what they were. So of two such payloads of one schema the texts differ just if the payloads do.
theorem survives_the_wire (h : decode s raw = .ok p) :
    p.schema = s ∧ (s = .string → p.encode = raw) ∧
      ((∀ n ∈ p.numbers, n.IsInteger) →
        decode s p.encode = .ok p ∧
          ∀ raw' q, decode s raw' = .ok q → (∀ n ∈ q.numbers, n.IsInteger) →
            (p.encode = q.encode ↔ p = q)) := by
  refine ⟨schema_of_decode h, fun hs => encode_of_decode_string (hs ▸ h), fun hp => ?_⟩
  refine ⟨decode_encode h hp, fun raw' q hq hn => ⟨fun he => ?_, congrArg encode⟩⟩
  have hr : decode s q.encode = .ok p := he ▸ decode_encode h hp
  exact Except.ok.inj (hr.symm.trans (decode_encode hq hn))

theorem survives_the_wire_sorted :
    ∃ p, decode .json
        "\x7b\"b\":0, \"a\":\"\\ud83d\\ude00\", \"b\":[18446744073709551615]\x7d" = .ok p ∧
      p.encode = "\x7b\"a\":\"😀\",\"b\":[18446744073709551615]\x7d" ∧
      decode .json p.encode = .ok p := by
  have h : decode .json "\x7b\"b\":0, \"a\":\"\\ud83d\\ude00\", \"b\":[18446744073709551615]\x7d" =
      .ok (.json (.object [("a", .string "😀"),
        ("b", .array [.number (.integer 18446744073709551615)])])) := by cbv
  refine ⟨_, h, by decide +kernel, ((survives_the_wire h).2.2 ?_).1⟩
  simp [numbers, toValue, Json.Value.numbers, Json.Value.numbersOfItems,
    Json.Value.numbersOfMembers, Json.Number.IsInteger]

end ChainHost.Payload
