import ChainHost.Storage.Path

namespace ChainHost.Path

-- The parts of a path that lead somewhere, without a dot at its start.
def way (path : String) : List (List Char) :=
  (components path).filter (· ≠ ['.'])

structure LeadsOn (base path joined : String) : Prop where
  root  : isAbsolute joined = isAbsolute base
  parts : way joined = way base ++ way path

variable {base path : String}

theorem segments_eq_splitOn (cs : List Char) : segments cs = cs.splitOn '/' := by
  induction cs
  case nil => rfl
  case cons c cs hi =>
    rw [segments, List.splitOn_cons_eq_if_modifyHead, hi]
    cases hs : cs.splitOn '/'
    case nil  => exact absurd hs (List.splitOn_ne_nil _ _)
    case cons => simp

theorem segments_append (cs cs' : List Char) :
    segments (cs ++ '/' :: cs') = segments cs ++ segments cs' := by
  simp only [segments_eq_splitOn, List.splitOn_append_cons_self]

-- The parts that lead somewhere are those that are neither empty nor a dot.
theorem way_eq (path : String) :
    way path = (segments path.toList).filter fun s => !s.isEmpty && s != ['.'] := by
  have hdots (parts : List (List Char)) :
      (parts.filter fun s => !s.isEmpty && s != ['.']).filter (· ≠ ['.']) =
        parts.filter fun s => !s.isEmpty && s != ['.'] := by
    rw [List.filter_filter]
    refine List.filter_congr fun s _ => ?_
    by_cases hs : s = ['.'] <;> simp [hs]
  rw [way, components]
  cases segments path.toList
  case nil => rfl
  case cons s rest =>
    dsimp only
    split
    case isFalse => exact hdots _
    case isTrue hs =>
      rw [hs, List.filter_cons_of_neg (by simp), hdots, List.filter_cons_of_neg (by simp)]

example : way "./a//b/./" = [['a'], ['b']] := by decide

theorem way_append (base path : String) :
    way (base ++ "/" ++ path) = way base ++ way path := by
  have hs : (base ++ "/" ++ path).toList = base.toList ++ '/' :: path.toList := by simp
  simp only [way_eq, hs, segments_append, List.filter_append]

theorem way_append_slash (base : String) : way (base ++ "/") = way base := by
  have hempty : way "" = [] := rfl
  simpa [hempty] using way_append base ""

theorem way_join (h : isAbsolute path = false) : way (join base path) = way base ++ way path := by
  rw [join, if_neg (by simp [h])]
  split
  case isTrue => exact way_append base path
  case isFalse hlast =>
    rcases List.eq_nil_or_concat base.toList with hb | ⟨front, c, hb⟩
    case inl =>
      rw [String.toList_eq_nil_iff.1 hb, String.empty_append]
      rfl
    case inr =>
      obtain rfl : c = '/' := by simpa [hb] using hlast
      obtain rfl : base = String.ofList front ++ "/" := by
        rw [← String.toList_inj, hb]
        simp
      rw [way_append, way_append_slash]

theorem prefix_join (h : isAbsolute path = false) (base : String) :
    base.toList <+: (join base path).toList := by
  rw [join, if_neg (by simp [h])]
  split <;> simp

theorem isAbsolute_join (h : isAbsolute path = false) :
    isAbsolute (join base path) = isAbsolute base := by
  by_cases hb : base = ""
  case pos =>
    have hj : join "" path = path := by simp [join, h]
    rw [hb, hj, h]
    rfl
  case neg =>
    obtain ⟨rest, hrest⟩ := prefix_join h base
    have hne : base.toList ≠ [] := by simpa using hb
    rw [isAbsolute, isAbsolute, ← hrest, List.head?_append, List.head?_eq_some_head hne,
      Option.some_or]

theorem leadsOn_join_iff : LeadsOn base path (join base path) ↔
    isAbsolute path = false ∨ isAbsolute base = true ∧ way base = [] := by
  constructor
  case mp =>
    rintro ⟨hroot, hway⟩
    cases hp : isAbsolute path
    case false => exact .inl rfl
    case true =>
      rw [join_of_isAbsolute hp] at hroot hway
      exact .inr ⟨hroot ▸ hp, List.self_eq_append_left.1 hway⟩
  case mpr =>
    intro h
    cases hp : isAbsolute path
    case false => exact ⟨isAbsolute_join hp, way_join hp⟩
    case true =>
      obtain ⟨hroot, hway⟩ := h.resolve_left (by simp [hp])
      rw [join_of_isAbsolute hp]
      exact ⟨hp.trans hroot.symm, by rw [hway, List.nil_append]⟩

end ChainHost.Path
