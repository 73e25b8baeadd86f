namespace ChainHost.Text

variable {bytes : ByteArray} {text : String}

theorem byteArray_toList_loop (bytes : ByteArray) (i : Nat) (before : List UInt8) :
    ByteArray.toList.loop bytes i before = before.reverse ++ bytes.data.toList.drop i := by
  fun_induction ByteArray.toList.loop bytes i before
  case case1 i before h hi =>
    have hs : i < bytes.data.size := h
    have hg : bytes.get! i = bytes.data[i] := getElem!_pos bytes.data i hs
    rw [hi, hg, List.reverse_cons, List.append_assoc, List.singleton_append, ← Array.getElem_toList,
      ← List.drop_eq_getElem_cons]
  case case2 i before h =>
    have hs : bytes.data.toList.length ≤ i := Nat.not_lt.1 h
    rw [List.drop_eq_nil_of_le hs, List.append_nil]

theorem byteArray_toList (bytes : ByteArray) : bytes.toList = bytes.data.toList :=
  byteArray_toList_loop bytes 0 []

-- Bytes are read as the text that has them.
theorem fromUTF8?_eq_some_iff : String.fromUTF8? bytes = some text ↔ bytes = text.toUTF8 := by
  unfold String.fromUTF8?
  constructor
  case mp =>
    split
    case isTrue  => rintro ⟨⟩; rfl
    case isFalse => rintro ⟨⟩
  case mpr =>
    rintro rfl
    exact dif_pos text.isValidUTF8

end ChainHost.Text
