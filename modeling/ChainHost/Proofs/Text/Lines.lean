import Mathlib.Data.List.Count

namespace ChainHost.Text

-- The lines that are ended. What stands behind the last line feed is none yet.
def lines (text : List Char) : List (List Char) :=
  (text.splitOn '\n').dropLast

theorem length_splitOn (text : List Char) : (text.splitOn '\n').length = text.count '\n' + 1 := by
  induction text
  case nil => rfl
  case cons c text hi =>
    rw [List.splitOn_cons_eq_if_modifyHead, List.count_cons]
    split
    case isTrue h  => rw [List.length_cons, hi]
    case isFalse h => rw [List.length_modifyHead, hi]

theorem length_lines (text : List Char) : (lines text).length = text.count '\n' := by
  rw [lines, List.length_dropLast, length_splitOn, Nat.add_sub_cancel]

theorem lines_append_newline (text rest : List Char) :
    lines (text ++ '\n' :: rest) = text.splitOn '\n' ++ lines rest := by
  rw [lines, List.splitOn_append_cons_self, List.dropLast_append_of_ne_nil (List.splitOn_ne_nil _ _),
    lines]

-- Texts of which each is ended by its one line feed are lines.
theorem lines_flatMap {texts : List (List Char)} (h : ∀ t ∈ texts, '\n' ∉ t) :
    lines (texts.flatMap (· ++ ['\n'])) = texts := by
  induction texts
  case nil => rfl
  case cons t texts hi =>
    obtain ⟨ht, htexts⟩ := List.forall_mem_cons.1 h
    rw [List.flatMap_cons, List.append_assoc, List.singleton_append, lines_append_newline,
      List.splitOn_eq_singleton ht, hi htexts, List.singleton_append]

-- What has no line feed stays on the last line of the text before it.
theorem exists_last_line (text : List Char) :
    ∃ above start, ∀ line, '\n' ∉ line → (text ++ line).splitOn '\n' = above ++ [start ++ line] := by
  induction text
  case nil => exact ⟨[], [], fun line h => List.splitOn_eq_singleton h⟩
  case cons c text hi =>
    obtain ⟨above, start, hi⟩ := hi
    by_cases hc : (c == '\n') = true
    case pos =>
      refine ⟨[] :: above, start, fun line h => ?_⟩
      rw [List.cons_append, List.splitOn_cons_eq_if_modifyHead, if_pos hc, hi line h,
        List.cons_append]
    case neg =>
      have hs (line : List Char) (h : '\n' ∉ line) :
          (c :: text ++ line).splitOn '\n' = (above ++ [start ++ line]).modifyHead (c :: ·) := by
        rw [List.cons_append, List.splitOn_cons_eq_if_modifyHead, if_neg hc, hi line h]
      cases above
      case nil          => exact ⟨[], c :: start, hs⟩
      case cons a above => exact ⟨(c :: a) :: above, start, hs⟩

theorem count_flatMap (texts : List (List Char)) :
    (texts.flatMap (· ++ ['\n'])).count '\n' = texts.length + texts.flatten.count '\n' := by
  induction texts
  case nil => rfl
  case cons t texts hi =>
    simp only [List.flatMap_cons, List.flatten_cons, List.count_append, hi, List.length_cons,
      List.count_singleton_self]
    omega

end ChainHost.Text
