import Mathlib.Data.List.Forall2
import ChainHost.Logging.Panic
import ChainHost.Proofs.Text.ByteOrder
import ChainHost.Proofs.Text.Lines

namespace ChainHost.Logging

-- How a character is shown on a line.
inductive OnLine : Char → Char → Prop
  | lineFeed       : OnLine '\n' ' '
  | carriageReturn : OnLine '\r' ' '
  | other {c : Char} (hn : c ≠ '\n') (hr : c ≠ '\r') : OnLine c c

-- A line with not more than `max` characters of a text, which are its first ones. Dots follow if the
-- text has more of them.
structure LineOf (max : Nat) (text line : List Char) : Prop where
  shown : List.Forall₂ OnLine (text.take (min max text.length)) (line.take (min max text.length))
  rest  : line.drop (min max text.length) = if text.length ≤ max then [] else ['.', '.', '.']

-- How a byte is shown on a line.
def blankByte (b : UInt8) : UInt8 :=
  if b = 10 ∨ b = 13 then 32 else b

-- What stands in the record of a panic before its payload.
def Panic.opening (p : Panic) : String :=
  "ERROR event=panic_captured module=logging status=error location=" ++ p.place ++ " payload="

section OnLine

variable {c d : Char} {cs ds : List Char}

theorem onLine_iff : OnLine c d ↔ unbroken c = d := by
  constructor
  case mp =>
    intro h
    cases h
    case lineFeed       => rfl
    case carriageReturn => rfl
    case other hn hr    => exact if_neg (not_or.2 ⟨hn, hr⟩)
  case mpr =>
    rintro rfl
    unfold unbroken
    split
    case isTrue h =>
      rcases h with rfl | rfl
      case inl => exact .lineFeed
      case inr => exact .carriageReturn
    case isFalse h => exact .other (not_or.1 h).1 (not_or.1 h).2

theorem forall₂_onLine_iff : List.Forall₂ OnLine cs ds ↔ cs.map unbroken = ds := by
  induction cs generalizing ds
  case nil          => cases ds <;> simp
  case cons c cs hi => cases ds <;> simp [onLine_iff, hi]

theorem not_mem_of_onLine (h : List.Forall₂ OnLine cs ds) : '\n' ∉ ds ∧ '\r' ∉ ds := by
  have hmem {d : Char} (hd : d ∈ ds) : d ≠ '\n' ∧ d ≠ '\r' := by
    rw [← forall₂_onLine_iff.1 h] at hd
    obtain ⟨c, -, rfl⟩ := List.mem_map.1 hd
    exact unbroken_ne_newline c
  exact ⟨fun hn => (hmem hn).1 rfl, fun hr => (hmem hr).2 rfl⟩

theorem onLine_self (h : List.Forall₂ OnLine cs ds) : List.Forall₂ OnLine ds ds := by
  rw [forall₂_onLine_iff] at h ⊢
  simp [← h]

theorem blankByte_ofNat {n : Nat} (hn : n ≠ 10) (hr : n ≠ 13) (h : n < 256) :
    blankByte (UInt8.ofNat n) = UInt8.ofNat n := by
  have hn : UInt8.ofNat n ≠ UInt8.ofNat 10 := mt (Text.ofNat_eq_ofNat h (by decide)).1 hn
  have hr : UInt8.ofNat n ≠ UInt8.ofNat 13 := mt (Text.ofNat_eq_ofNat h (by decide)).1 hr
  exact if_neg (not_or.2 ⟨hn, hr⟩)

-- The bytes of line ends are in no other character, as forms of more bytes than one have large ones.
theorem map_blankByte_utf8EncodeChar (hn : c ≠ '\n') (hr : c ≠ '\r') :
    (String.utf8EncodeChar c).map blankByte = String.utf8EncodeChar c := by
  have hn : c.val.toNat ≠ 10 := fun h => hn (Char.toNat_inj.1 h)
  have hr : c.val.toNat ≠ 13 := fun h => hr (Char.toNat_inj.1 h)
  unfold String.utf8EncodeChar
  generalize c.val.toNat = x at hn hr ⊢
  dsimp only
  repeat' split
  all_goals simp (disch := omega) only [List.map_cons, List.map_nil, blankByte_ofNat]

theorem utf8EncodeChar_of_onLine (h : OnLine c d) :
    String.utf8EncodeChar d = (String.utf8EncodeChar c).map blankByte := by
  cases h
  case lineFeed       => rfl
  case carriageReturn => rfl
  case other hn hr    => exact (map_blankByte_utf8EncodeChar hn hr).symm

theorem flatMap_utf8EncodeChar_of_onLine (h : List.Forall₂ OnLine cs ds) :
    ds.flatMap String.utf8EncodeChar = (cs.flatMap String.utf8EncodeChar).map blankByte := by
  induction h
  case nil => rfl
  case cons first _ hi =>
    rw [List.flatMap_cons, List.flatMap_cons, List.map_append, hi, utf8EncodeChar_of_onLine first]

end OnLine

section LineOf

variable {max : Nat} {text line : List Char}

theorem lineOf_singleLine (text : List Char) (max : Nat) : LineOf max text (singleLine text max) := by
  have hlength : ((text.take (min max text.length)).map unbroken).length = min max text.length := by
    rw [List.length_map, List.length_take, Nat.min_assoc, Nat.min_self]
  rw [singleLine, List.take_eq_take_min]
  constructor
  case shown => rw [List.take_left' hlength, forall₂_onLine_iff]
  case rest  =>
    rw [List.drop_left' hlength]
    simp only [gt_iff_lt, ← Nat.not_le, ite_not]

theorem LineOf.eq_singleLine (h : LineOf max text line) : singleLine text max = line := by
  have hs := lineOf_singleLine text max
  have hshown := (forall₂_onLine_iff.1 hs.shown).symm.trans (forall₂_onLine_iff.1 h.shown)
  rw [← List.take_append_drop (min max text.length) (singleLine text max), hshown, hs.rest, ← h.rest,
    List.take_append_drop]

theorem singleLine_eq_iff : singleLine text max = line ↔ LineOf max text line := by
  constructor
  case mp  => rintro rfl; exact lineOf_singleLine text max
  case mpr => exact LineOf.eq_singleLine

theorem LineOf.unbroken (h : LineOf max text line) : '\n' ∉ line ∧ '\r' ∉ line := by
  have hrest {c : Char} (hc : c ≠ '.') : c ∉ line.drop (min max text.length) := by
    rw [h.rest]
    split
    case isTrue  => exact List.not_mem_nil
    case isFalse => simpa using hc
  obtain ⟨hn, hr⟩ := not_mem_of_onLine h.shown
  rw [← List.take_append_drop (min max text.length) line, List.mem_append, List.mem_append]
  exact ⟨not_or.2 ⟨hn, hrest (by decide)⟩, not_or.2 ⟨hr, hrest (by decide)⟩⟩

theorem LineOf.length_eq (h : LineOf max text line) :
    line.length = if text.length ≤ max then text.length else max + 3 := by
  have htake := h.shown.length_eq
  have hdrop := congrArg List.length h.rest
  rw [List.length_take, List.length_take] at htake
  rw [List.length_drop] at hdrop
  split at hdrop
  all_goals simp only [List.length_cons, List.length_nil] at hdrop
  case isTrue hm  => rw [if_pos hm]; omega
  case isFalse hm => rw [if_neg hm]; omega

-- A line with dots is too long to be shown as a whole: it is cut where they begin, and gets them again.
theorem LineOf.self (h : LineOf max text line) : LineOf max line line := by
  have hmin : min max line.length = min max text.length ∧
      (line.length ≤ max ↔ text.length ≤ max) := by
    have hlength := h.length_eq
    split at hlength <;> omega
  constructor
  case shown => rw [hmin.1]; exact onLine_self h.shown
  case rest  => simp only [hmin.1, hmin.2, h.rest]

theorem LineOf.bytes (h : LineOf max text line) :
    (String.ofList line).toUTF8.toList =
      (String.ofList (text.take (min max text.length))).toUTF8.toList.map blankByte ++
        if text.length ≤ max then [] else "...".toUTF8.toList := by
  simp only [Text.toList_toUTF8, String.toList_ofList]
  rw [← flatMap_utf8EncodeChar_of_onLine h.shown]
  conv => lhs; rw [← List.take_append_drop (min max text.length) line, List.flatMap_append, h.rest]
  split <;> rfl

end LineOf

theorem Panic.record_event (p : Panic) :
    p.event.record =
      p.opening ++ String.ofList (singleLine p.payload.description.toList maxPayload) := by
  refine String.toList_inj.1 ?_
  dsimp only [event, Event.record, Event.level, Event.message, Level.name, opening]
  simp

-- There is one line of each text, with no line ends in it and of whole characters, and it is a line of
-- itself. The field of a payload in the record of a panic is such a line: it stays on the line on which
-- it begins, and is all that follows there.
theorem payload_stays_on_its_line :
    (∀ text max line, singleLine text max = line ↔ LineOf max text line) ∧
    (∀ text max, '\n' ∉ singleLine text max ∧ '\r' ∉ singleLine text max ∧
      (singleLine text max).length ≤ max + 3 ∧
      singleLine (singleLine text max) max = singleLine text max ∧
      ∃ kept rest, text = kept ++ rest ∧ kept.length = min max text.length ∧
        (String.ofList (singleLine text max)).toUTF8.toList =
          (String.ofList kept).toUTF8.toList.map blankByte ++
            if text.length ≤ max then [] else "...".toUTF8.toList) ∧
    ∀ (p : Panic) (before after : String), ∃ field above start,
      p.event.record = p.opening ++ String.ofList field ∧
      LineOf maxPayload p.payload.description.toList field ∧
      '\n' ∉ field ∧ '\r' ∉ field ∧ field.length ≤ 163 ∧
      (before ++ p.opening).toList.splitOn '\n' = above ++ [start] ∧
      Text.lines (before ++ (p.event.record ++ "\n") ++ after).toList =
        above ++ (start ++ field) :: Text.lines after.toList := by
  refine ⟨fun _ _ _ => singleLine_eq_iff, fun text max => ?line, fun p before after => ?record⟩
  case line =>
    have h := lineOf_singleLine text max
    have hkept : (text.take (min max text.length)).length = min max text.length := by
      rw [List.length_take, Nat.min_assoc, Nat.min_self]
    exact ⟨h.unbroken.1, h.unbroken.2, length_singleLine_le text max, h.self.eq_singleLine, _, _,
      (List.take_append_drop _ text).symm, hkept, h.bytes⟩
  case record =>
    have h := lineOf_singleLine p.payload.description.toList maxPayload
    obtain ⟨above, start, hs⟩ := Text.exists_last_line (before ++ p.opening).toList
    have hopening : (before ++ p.opening).toList.splitOn '\n' = above ++ [start] := by
      simpa using hs [] List.not_mem_nil
    refine ⟨_, above, start, p.record_event, h, h.unbroken.1, h.unbroken.2,
      length_singleLine_le _ _, hopening, ?_⟩
    have hlines := Text.lines_append_newline ((before ++ p.opening).toList ++
      singleLine p.payload.description.toList maxPayload) after.toList
    rw [hs _ h.unbroken.1] at hlines
    simpa [p.record_event] using hlines

-- A payload with one character too many, and with a line end of two characters where it is cut.
def longPanic : Panic where
  location := some ("é", 7)
  payload  := .text (String.ofList (List.replicate 158 'é' ++ ['\r', '\n', '€']))

theorem payload_stays_on_its_line_when_cut :
    singleLine "é\r\n€".toList 3 = "é  ...".toList ∧
    singleLine "é  ...".toList 3 = "é  ...".toList ∧
    ∃ field, longPanic.event.record = longPanic.opening ++ String.ofList field ∧
      field.length = 163 ∧
      Text.lines (longPanic.event.record ++ "\n").toList = [longPanic.opening.toList ++ field] := by
  obtain ⟨hiff, hline, hrecord⟩ := payload_stays_on_its_line
  have hshown : List.Forall₂ OnLine ['é', '\r', '\n'] ['é', ' ', ' '] :=
    .cons (.other (by decide) (by decide)) (.cons .carriageReturn (.cons .lineFeed .nil))
  have hcut : singleLine "é\r\n€".toList 3 = "é  ...".toList := (hiff _ _ _).2 ⟨hshown, rfl⟩
  have hagain : singleLine "é  ...".toList 3 = "é  ...".toList := by
    obtain ⟨-, -, -, h, -⟩ := hline "é\r\n€".toList 3
    rwa [hcut] at h
  refine ⟨hcut, hagain, ?_⟩
  obtain ⟨field, above, start, hr, hl, -, -, -, hopening, hlines⟩ := hrecord longPanic "" ""
  refine ⟨field, hr, ?length, ?lines⟩
  case length =>
    have hlong : longPanic.payload.description.toList.length = 161 := by
      simp only [longPanic, PanicPayload.description, String.toList_ofList, List.length_append,
        List.length_replicate, List.length_cons, List.length_nil]
    rw [hl.length_eq, hlong]
    rfl
  case lines =>
    have hn : '\n' ∉ ("" ++ longPanic.opening).toList := by decide +kernel
    rw [List.splitOn_eq_singleton hn] at hopening
    cases above
    case nil =>
      obtain rfl : start = longPanic.opening.toList := by simpa using hopening.symm
      simpa [Text.lines] using hlines
    case cons => simp at hopening

end ChainHost.Logging
