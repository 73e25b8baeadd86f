import Mathlib.Data.List.DropRight
import ChainHost.Text.Blank

namespace ChainHost.Text

structure Trims (text inner : String) : Prop where
  around : ∃ before after, text.toList = before ++ inner.toList ++ after ∧
    (∀ c ∈ before, isBlank c = true) ∧ ∀ c ∈ after, isBlank c = true
  first  : ∀ c ∈ inner.toList.head?, isBlank c = false
  last   : ∀ c ∈ inner.toList.getLast?, isBlank c = false

variable {text inner : String} {before cs after : List Char}

theorem Trims.self (h : Trims text inner) : Trims inner inner where
  around := ⟨[], [], by simp⟩
  first  := h.first
  last   := h.last

theorem trimStart_append (hb : ∀ c ∈ before, isBlank c = true)
    (hc : ∀ c ∈ cs.head?, isBlank c = false) : trimStart (before ++ cs) = cs := by
  rw [trimStart, List.dropWhile_append_of_pos hb]
  cases cs
  case nil         => rfl
  case cons c rest => rw [List.dropWhile_cons_of_neg (by simp [hc c rfl])]

theorem trimEnd_append (ha : ∀ c ∈ after, isBlank c = true)
    (hc : ∀ c ∈ cs.getLast?, isBlank c = false) : trimEnd (cs ++ after) = cs := by
  have hs : trimStart (after.reverse ++ cs.reverse) = cs.reverse :=
    trimStart_append (fun c h => ha c (List.mem_reverse.1 h)) (by rwa [List.head?_reverse])
  rw [trimEnd, List.reverse_append, ← trimStart, hs, List.reverse_reverse]

theorem trims_trim (text : String) : Trims text (trim text) := by
  constructor <;> rw [trim, String.toList_ofList]
  case around =>
    refine ⟨text.toList.takeWhile isBlank, (trimStart text.toList).rtakeWhile isBlank, ?_,
      fun _ => List.mem_takeWhile_imp, fun _ => List.mem_rtakeWhile_imp⟩
    rw [List.append_assoc]
    exact (congrArg _ List.rdropWhile_append_rtakeWhile).trans
      List.takeWhile_append_dropWhile |>.symm
  case first =>
    intro c hc
    obtain ⟨rest, hrest⟩ : trimEnd (trimStart text.toList) <+: trimStart text.toList :=
      List.rdropWhile_prefix isBlank _
    have hh : (trimStart text.toList).head? = some c := by
      rw [← hrest, List.head?_append, hc, Option.some_or]
    have := List.head?_dropWhile_not isBlank text.toList
    rwa [← trimStart, hh] at this
  case last =>
    intro c hc
    obtain ⟨hne, rfl⟩ := List.mem_getLast?_eq_getLast hc
    exact Bool.eq_false_iff.2 (List.rdropWhile_last_not isBlank _ hne)

theorem trims_iff : Trims text inner ↔ trim text = inner := by
  constructor
  case mpr => rintro rfl; exact trims_trim text
  case mp =>
    rintro ⟨⟨before, after, htext, hbefore, hafter⟩, hfirst, hlast⟩
    suffices h : trimEnd (trimStart text.toList) = inner.toList by
      rw [trim, h, String.ofList_toList]
    rw [htext]
    -- blanks in front of nothing but blanks are taken off together with these
    cases hi : inner.toList
    case nil =>
      have hblank : ∀ c ∈ before ++ after, isBlank c = true :=
        List.forall_mem_append.2 ⟨hbefore, hafter⟩
      have hs : trimStart (before ++ after ++ []) = [] := trimStart_append hblank nofun
      rw [List.append_nil] at hs ⊢
      rw [hs]
      rfl
    case cons c rest =>
      rw [hi] at hfirst hlast
      have hs : trimStart (before ++ (c :: rest ++ after)) = c :: rest ++ after :=
        trimStart_append hbefore hfirst
      rw [List.append_assoc, hs, trimEnd_append hafter hlast]

-- Nothing is left between the blanks of a text just if there is nothing but blanks.
theorem trim_isEmpty_iff : (trim text).isEmpty = true ↔ ∀ c ∈ text.toList, isBlank c = true := by
  rw [String.isEmpty_iff, ← trims_iff]
  constructor
  case mp =>
    rintro ⟨⟨before, after, htext, hbefore, hafter⟩, -, -⟩
    rw [htext]
    exact List.forall_mem_append.2 ⟨List.forall_mem_append.2 ⟨hbefore, nofun⟩, hafter⟩
  case mpr => exact fun h => ⟨⟨text.toList, [], by simpa⟩, nofun, nofun⟩

end ChainHost.Text
