import ChainHost.Registry
import ChainHost.Proofs.Json.Members
import ChainHost.Proofs.Text.ByteOrder

namespace ChainHost

variable {m : Type → Type} {η ν π : Type}

namespace Registration

-- The name that something is to be registered under.
def name : Registration m η ν → String
  | factory name _ => name
  | slot name _    => name
  | builtin        => Declared.typeName

variable [Monad m] [PatternLanguage π] (embed : Declared π → ν)

-- What is to be registered, if there is something.
def factory? : Registration m η ν → Option (Factory m η ν)
  | factory _ f => some f
  | slot _ s    => s
  | builtin     => some (.ofDeclared embed)

def member? (g : Registration m η ν) : Option (String × Factory m η ν) :=
  (g.factory? embed).map (g.name, ·)

theorem member?_eq_some {g : Registration m η ν} {f : Factory m η ν}
    (hf : g.factory? embed = some f) : g.member? embed = some (g.name, f) := by
  rw [member?, hf, Option.map_some]

-- The first factory that is to be registered under a name.
def firstFactory? (gs : List (Registration m η ν)) (name : String) : Option (Factory m η ν) :=
  gs.findSome? fun g => if g.name = name then g.factory? embed else none

theorem firstFactory?_cons (g : Registration m η ν) (gs : List (Registration m η ν))
    (name : String) : firstFactory? embed (g :: gs) name =
      (if g.name = name then g.factory? embed else none).or (firstFactory? embed gs name) := by
  rw [firstFactory?, List.findSome?_cons]
  cases if g.name = name then g.factory? embed else none <;> rfl

end Registration

namespace Registry

variable {r : Registry m η ν}

theorem typeNames_nodup (r : Registry m η ν) : r.typeNames.Nodup :=
  r.sorted.nodup

theorem factory?_eq_none_iff {name : String} : r.factory? name = none ↔ name ∉ r.typeNames :=
  Json.findMember?_eq_none_iff

theorem contains_iff {name : String} : r.contains name ↔ name ∈ r.typeNames := by
  rw [contains, Option.isSome_iff_ne_none, Ne, factory?_eq_none_iff, not_not]

theorem eq_of_perm {r' : Registry m η ν} (h : r.factories.Perm r'.factories) : r = r' := by
  have he : r.factories = r'.factories := r.sorted.eq_of_perm r'.sorted h
  cases r
  cases r'
  cases he
  rfl

variable [Monad m] [PatternLanguage π] {embed : Declared π → ν}

section Step

variable {g : Registration m η ν} {f : Factory m η ν}

theorem attempt_eq (r : Registry m η ν) (g : Registration m η ν) :
    r.attempt embed g = r.registerSlot g.name (g.factory? embed) := by
  cases g <;> rfl

theorem perform_of_missing (hf : g.factory? embed = none) :
    r.perform embed g = (.error (.missingFactory g.name), r) := by
  simp only [perform, attempt_eq, hf, registerSlot]

theorem perform_of_mem (hf : g.factory? embed = some f) (hn : g.name ∈ r.typeNames) :
    r.perform embed g = (.error (.duplicateType g.name), r) := by
  simp only [perform, attempt_eq, hf, registerSlot, contains_iff.2 hn, if_true]

theorem perform_of_not_mem (hf : g.factory? embed = some f) (hn : g.name ∉ r.typeNames) :
    ∃ r', r.perform embed g = (.ok (.registered g.name), r') ∧
      r'.factories = Json.insertMember g.name f r.factories := by
  simp only [perform, attempt_eq, hf, registerSlot, mt contains_iff.1 hn]
  exact ⟨_, rfl, rfl⟩

-- A registration is refused and changes nothing, or it adds a new name with its factory.
theorem perform_cases (embed : Declared π → ν) (r : Registry m η ν) (g : Registration m η ν) :
    (∃ e, r.perform embed g = (.error e, r) ∧
      (g.factory? embed = none ∨ g.name ∈ r.typeNames)) ∨
    ∃ f r', r.perform embed g = (.ok (.registered g.name), r') ∧ g.factory? embed = some f ∧
      g.name ∉ r.typeNames ∧ r'.factories = Json.insertMember g.name f r.factories := by
  cases hf : g.factory? embed
  case none => exact .inl ⟨_, perform_of_missing hf, .inl rfl⟩
  case some f =>
    by_cases hn : g.name ∈ r.typeNames
    case pos => exact .inl ⟨_, perform_of_mem hf hn, .inr hn⟩
    case neg =>
      obtain ⟨r', hp, hr⟩ := perform_of_not_mem hf hn
      exact .inr ⟨f, r', hp, rfl, hn, hr⟩

end Step

section Run

variable (embed)

-- The registrations of a run that are taken.
def taken (r : Registry m η ν) : List (Registration m η ν) → List (Registration m η ν)
  | [] => []
  | g :: gs =>
    match r.perform embed g with
    | (.ok _, r')    => g :: taken r' gs
    | (.error _, r') => taken r' gs

theorem taken_of_error {g : Registration m η ν} {e : RegistrationError} {r' : Registry m η ν}
    (hp : r.perform embed g = (.error e, r')) (gs : List (Registration m η ν)) :
    r.taken embed (g :: gs) = r'.taken embed gs := by
  rw [taken, hp]

theorem taken_of_ok {g : Registration m η ν} {event : Event} {r' : Registry m η ν}
    (hp : r.perform embed g = (.ok event, r')) (gs : List (Registration m η ν)) :
    r.taken embed (g :: gs) = g :: r'.taken embed gs := by
  rw [taken, hp]

theorem after_cons (g : Registration m η ν) (gs : List (Registration m η ν)) :
    r.after embed (g :: gs) = (r.perform embed g).2.after embed gs :=
  rfl

theorem after_append (gs more : List (Registration m η ν)) :
    r.after embed (gs ++ more) = (r.after embed gs).after embed more :=
  List.foldl_append

theorem factory?_after (r : Registry m η ν) (gs : List (Registration m η ν)) (name : String) :
    (r.after embed gs).factory? name =
      (r.factory? name).or (Registration.firstFactory? embed gs name) := by
  induction gs generalizing r
  case nil => simp [after, Registration.firstFactory?]
  case cons g gs hi =>
    rw [after_cons, hi, Registration.firstFactory?_cons, ← Option.or_assoc]
    congr 1
    rcases perform_cases embed r g with ⟨e, hp, hf | hn⟩ | ⟨f, r', hp, hf, hn, hr⟩
    case inl.inl => simp [hp, hf]
    case inl.inr =>
      rw [hp]
      split
      case isTrue he =>
        obtain ⟨f', hf'⟩ := Option.isSome_iff_exists.1 (contains_iff.2 (he ▸ hn))
        rw [hf', Option.some_or]
      case isFalse => rw [Option.or_none]
    case inr =>
      rw [hp, factory?, hr, Json.findMember?_insertMember, hf]
      split
      case isTrue he => rw [factory?_eq_none_iff.2 (he ▸ hn), Option.none_or]
      case isFalse   => rw [Option.or_none, factory?]

theorem factories_after_perm (r : Registry m η ν) (gs : List (Registration m η ν)) :
    (r.after embed gs).factories.Perm
      (r.factories ++ (r.taken embed gs).filterMap (Registration.member? embed)) := by
  induction gs generalizing r
  case nil => simp [after, taken]
  case cons g gs hi =>
    rw [after_cons]
    rcases perform_cases embed r g with ⟨e, hp, -⟩ | ⟨f, r', hp, hf, hn, hr⟩
    case inl =>
      rw [hp, taken_of_error embed hp]
      exact hi r
    case inr =>
      have hins : r'.factories.Perm ((g.name, f) :: r.factories) := hr ▸ Json.insertMember_perm hn
      rw [hp, taken_of_ok embed hp, List.filterMap_cons_some (Registration.member?_eq_some embed hf)]
      exact (hi r').trans ((hins.append_right _).trans List.perm_middle.symm)

theorem exists_factory_of_mem_taken {g : Registration m η ν} {r : Registry m η ν}
    {gs : List (Registration m η ν)} (h : g ∈ r.taken embed gs) :
    ∃ f, g.factory? embed = some f := by
  induction gs generalizing r
  case nil => cases h
  case cons g' gs hi =>
    rcases perform_cases embed r g' with ⟨e, hp, -⟩ | ⟨f, r', hp, hf, -⟩
    case inl =>
      rw [taken_of_error embed hp] at h
      exact hi h
    case inr =>
      rw [taken_of_ok embed hp] at h
      rcases List.mem_cons.1 h with rfl | h
      · exact ⟨f, hf⟩
      · exact hi h

-- What is taken stays.
theorem factory?_after_of_mem_taken {g : Registration m η ν} {r : Registry m η ν}
    {gs : List (Registration m η ν)} (h : g ∈ r.taken embed gs) :
    ∃ f, g.factory? embed = some f ∧ (r.after embed gs).factory? g.name = some f := by
  obtain ⟨f, hf⟩ := exists_factory_of_mem_taken embed h
  have he : (g.name, f) ∈ (r.taken embed gs).filterMap (Registration.member? embed) :=
    List.mem_filterMap.2 ⟨g, h, Registration.member?_eq_some embed hf⟩
  have hm : (g.name, f) ∈ (r.after embed gs).factories :=
    (factories_after_perm embed r gs).mem_iff.2 (List.mem_append_right _ he)
  exact ⟨f, hf, (Json.findMember?_eq_some_iff (typeNames_nodup _)).2 hm⟩

theorem typeNames_after_perm (r : Registry m η ν) (gs : List (Registration m η ν)) :
    (r.after embed gs).typeNames.Perm
      (r.typeNames ++ (r.taken embed gs).map Registration.name) := by
  have he : ((r.taken embed gs).filterMap (Registration.member? embed)).map Prod.fst =
      (r.taken embed gs).map Registration.name := by
    rw [List.map_filterMap, ← List.filterMap_eq_map]
    refine List.filterMap_congr fun g hg => ?_
    obtain ⟨f, hf⟩ := exists_factory_of_mem_taken embed hg
    exact congrArg (Option.map Prod.fst) (Registration.member?_eq_some embed hf)
  have hp := (factories_after_perm embed r gs).map Prod.fst
  rwa [List.map_append, he] at hp

end Run

section New

variable (embed) (gs : List (Registration m η ν))

theorem factory?_after_empty (name : String) :
    (empty.after embed gs).factory? name = Registration.firstFactory? embed gs name :=
  factory?_after embed empty gs name

theorem typeNames_after_empty_perm :
    (empty.after embed gs).typeNames.Perm ((empty.taken embed gs).map Registration.name) :=
  typeNames_after_perm embed empty gs

theorem perform_after_empty (g : Registration m η ν) :
    (empty.after embed gs).perform embed g =
      if g.factory? embed = none then (.error (.missingFactory g.name), empty.after embed gs)
      else if g.name ∈ (empty.taken embed gs).map Registration.name then
        (.error (.duplicateType g.name), empty.after embed gs)
      else (.ok (.registered g.name), empty.after embed (gs ++ [g])) := by
  have hm := (typeNames_after_empty_perm embed gs).mem_iff (a := g.name)
  split
  case isTrue hf => exact perform_of_missing hf
  case isFalse hf =>
    obtain ⟨f, hf⟩ := Option.ne_none_iff_exists'.1 hf
    split
    case isTrue hn => exact perform_of_mem hf (hm.2 hn)
    case isFalse hn =>
      obtain ⟨r', hp, -⟩ := perform_of_not_mem hf (hm.not.2 hn)
      rw [after_append, after_cons, hp]
      rfl

theorem after_empty_eq_of_perm {gs gs' : List (Registration m η ν)} (h : gs.Perm gs')
    (ht : empty.taken embed gs = gs) (ht' : empty.taken embed gs' = gs') :
    empty.after embed gs = empty.after embed gs' := by
  have hp := factories_after_perm embed empty gs
  have hp' := factories_after_perm embed empty gs'
  rw [ht] at hp
  rw [ht'] at hp'
  exact eq_of_perm (hp.trans ((h.filterMap _).trans hp'.symm))

-- After a run on a new registry: which factory is under each name, now and later, how the next
-- registration is answered, what the names are, and that the order of what was taken is forgotten.
theorem run_keeps_first_factories :
    (∀ name, (empty.after embed gs).factory? name = Registration.firstFactory? embed gs name) ∧
      (∀ more name f, (empty.after embed gs).factory? name = some f →
        (empty.after embed (gs ++ more)).factory? name = some f) ∧
      (∀ g, (empty.after embed gs).perform embed g =
        if g.factory? embed = none then (.error (.missingFactory g.name), empty.after embed gs)
        else if g.name ∈ (empty.taken embed gs).map Registration.name then
          (.error (.duplicateType g.name), empty.after embed gs)
        else (.ok (.registered g.name), empty.after embed (gs ++ [g]))) ∧
      ((empty.after embed gs).typeNames.map Text.bytes).Pairwise (· < ·) ∧
      (empty.after embed gs).typeNames.Perm ((empty.taken embed gs).map Registration.name) ∧
      (empty.after embed gs).size = (empty.taken embed gs).length ∧
      (∀ name, (empty.after embed gs).contains name ↔ name ∈ (empty.after embed gs).typeNames) ∧
      ∀ gs', gs.Perm gs' → empty.taken embed gs = gs → empty.taken embed gs' = gs' →
        empty.after embed gs = empty.after embed gs' := by
  have hperm := typeNames_after_empty_perm embed gs
  have hbytes : ((empty.after embed gs).typeNames.map Text.bytes).Pairwise (· < ·) := by
    rw [typeNames, List.map_map]
    exact (empty.after embed gs).sorted.bytes
  have hsize : (empty.after embed gs).size = (empty.taken embed gs).length := by
    have hl := hperm.length_eq
    rwa [typeNames, List.length_map, List.length_map] at hl
  refine ⟨factory?_after_empty embed gs, fun more name f hf => ?_, perform_after_empty embed gs,
    hbytes, hperm, hsize, fun name => contains_iff, fun gs' => after_empty_eq_of_perm embed⟩
  rw [after_append, factory?_after, hf, Option.some_or]

section Example

-- A factory whose nuclei are all the same number.
def numbered (n : Nat) : Factory Id Unit Nat := fun _ _ => (.ok n, [])

def embedZero (_ : Declared Pattern) : Nat := 0

-- Names that differ in case alone, around the types that come with the host.
def acceptedRun : List (Registration Id Unit Nat) :=
  [.factory "b" (numbered 1), .builtin, .slot "B" (some (numbered 2))]

def refusedRun : List (Registration Id Unit Nat) :=
  [.factory "b" (numbered 3), .slot "b" none, .builtin]

theorem run_keeps_first_factories_in_any_order :
    empty.taken embedZero acceptedRun = acceptedRun ∧
      empty.taken embedZero acceptedRun.reverse = acceptedRun.reverse ∧
      (empty.after embedZero acceptedRun) = (empty.after embedZero acceptedRun.reverse) ∧
      (empty.after embedZero acceptedRun).factory? "b" = some (numbered 1) ∧
      (empty.after embedZero (acceptedRun ++ refusedRun)).factory? "b" = some (numbered 1) := by
  obtain ⟨hfirst, hlater, -, -, -, -, -, hperm⟩ := run_keeps_first_factories embedZero acceptedRun
  have ht : empty.taken embedZero acceptedRun = acceptedRun := rfl
  have ht' : empty.taken embedZero acceptedRun.reverse = acceptedRun.reverse := rfl
  have hb : (empty.after embedZero acceptedRun).factory? "b" = some (numbered 1) := hfirst "b"
  exact ⟨ht, ht', hperm _ (List.reverse_perm _).symm ht ht', hb, hlater refusedRun "b" _ hb⟩

end Example
end New
end Registry
end ChainHost
