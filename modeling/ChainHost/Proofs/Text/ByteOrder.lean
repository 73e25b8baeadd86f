import ChainHost.Json.Value
import ChainHost.Proofs.Text.Utf8

namespace ChainHost

namespace Text

-- The bytes of a text in UTF-8.
def bytes (s : String) : List UInt8 :=
  s.toUTF8.data.toList

theorem bytes_eq_flatMap (s : String) : bytes s = s.toList.flatMap String.utf8EncodeChar := by
  conv => lhs; rw [← String.ofList_toList (s := s)]
  simp only [bytes, String.toUTF8_eq_toByteArray, String.toByteArray_ofList, List.utf8Encode]
  exact List.toList_data_toByteArray

theorem toList_toUTF8 (s : String) : s.toUTF8.toList = s.toList.flatMap String.utf8EncodeChar := by
  rw [← bytes_eq_flatMap, byteArray_toList, bytes]

theorem ofNat_lt_ofNat {m n : Nat} (hm : m < 256) (hn : n < 256) :
    UInt8.ofNat m < UInt8.ofNat n ↔ m < n := by
  rw [UInt8.lt_iff_toNat_lt, UInt8.toNat_ofNat_of_lt' hm, UInt8.toNat_ofNat_of_lt' hn]

theorem ofNat_eq_ofNat {m n : Nat} (hm : m < 256) (hn : n < 256) :
    UInt8.ofNat m = UInt8.ofNat n ↔ m = n := by
  rw [← UInt8.toNat_inj, UInt8.toNat_ofNat_of_lt' hm, UInt8.toNat_ofNat_of_lt' hn]

-- The four bytes of large characters are digits, which are compared from the first one on.
theorem four_digits_lt {x y : Nat} (h : x < y) (hy : y < 0x110000) (p : Prop) :
    x / 262144 % 8 + 240 < y / 262144 % 8 + 240 ∨
    x / 262144 % 8 + 240 = y / 262144 % 8 + 240 ∧
      (x / 4096 % 64 + 128 < y / 4096 % 64 + 128 ∨
      x / 4096 % 64 + 128 = y / 4096 % 64 + 128 ∧
        (x / 64 % 64 + 128 < y / 64 % 64 + 128 ∨
        x / 64 % 64 + 128 = y / 64 % 64 + 128 ∧
          (x % 64 + 128 < y % 64 + 128 ∨ x % 64 + 128 = y % 64 + 128 ∧ p))) := by
  rcases Nat.lt_or_ge (x / 262144) (y / 262144) with h₁ | h₁
  · exact .inl (by omega)
  refine .inr ⟨by omega, ?_⟩
  rcases Nat.lt_or_ge (x / 4096) (y / 4096) with h₂ | h₂
  · exact .inl (by omega)
  refine .inr ⟨by omega, ?_⟩
  rcases Nat.lt_or_ge (x / 64) (y / 64) with h₃ | h₃
  · exact .inl (by omega)
  exact .inr ⟨by omega, .inl (by omega)⟩

-- Of two characters the smaller one has the smaller bytes, whatever follows them: a form with more
-- bytes begins with a larger one, and forms of one length are compared digit by digit.
theorem utf8EncodeChar_append_lt {c d : Char} (h : c < d) (l m : List UInt8) :
    String.utf8EncodeChar c ++ l < String.utf8EncodeChar d ++ m := by
  replace h : c.val.toNat < d.val.toNat := h
  have hd : d.val.toNat < 0x110000 := by
    have hv := d.valid
    simp only [UInt32.isValidChar, Nat.isValidChar] at hv
    omega
  unfold String.utf8EncodeChar
  generalize c.val.toNat = x at h ⊢
  generalize d.val.toNat = y at h hd ⊢
  dsimp only
  repeat' split
  all_goals
    simp (disch := omega) only [List.cons_append, List.nil_append, List.cons_lt_cons_iff,
      ofNat_lt_ofNat, ofNat_eq_ofNat]
  case isFalse.isFalse.isFalse.isFalse.isFalse.isFalse => exact four_digits_lt h hd _
  all_goals omega

theorem flatMap_utf8EncodeChar_lt {s t : List Char} (h : s < t) :
    s.flatMap String.utf8EncodeChar < t.flatMap String.utf8EncodeChar := by
  induction s generalizing t <;> cases t
  case nil.nil => exact absurd h (List.lt_irrefl _)
  case nil.cons d t =>
    cases hd : String.utf8EncodeChar d with
    | nil => exact absurd hd String.utf8EncodeChar_ne_nil
    | cons b bs => simp [hd]
  case cons.nil => exact absurd h (List.not_lt_nil _)
  case cons.cons c s hi d t =>
    simp only [List.flatMap_cons]
    rcases List.cons_lt_cons_iff.1 h with hc | ⟨rfl, hs⟩
    · exact utf8EncodeChar_append_lt hc _ _
    · exact List.append_left_lt (hi hs)

theorem bytes_lt_iff {s t : String} : bytes s < bytes t ↔ s < t := by
  have mono {s t : String} (h : s < t) : bytes s < bytes t := by
    rw [bytes_eq_flatMap, bytes_eq_flatMap]
    exact flatMap_utf8EncodeChar_lt (String.lt_iff.1 h)
  refine ⟨fun h => ?_, mono⟩
  by_cases he : s = t
  · exact absurd (he ▸ h) (List.lt_irrefl _)
  · refine String.not_le.1 fun hle => ?_
    have hlt : t < s := String.not_le.1 fun hge => he (String.le_antisymm hge hle)
    exact List.lt_asymm h (mono hlt)

end Text

-- The keys of an object ascend by their bytes.
theorem Json.SortedKeys.bytes {α : Type} {members : List (String × α)} (h : SortedKeys members) :
    (members.map fun m => Text.bytes m.1).Pairwise (· < ·) := by
  rw [SortedKeys, List.pairwise_map] at h
  exact List.pairwise_map.2 (h.imp Text.bytes_lt_iff.2)

end ChainHost
