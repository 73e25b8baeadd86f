import ChainHost.Session
import ChainHost.Proofs.Declared.Document
import ChainHost.Proofs.Registry.Creation

namespace ChainHost

variable {m : Type → Type} {η ν π : Type}

-- How a factory without records of its own comes to its answer: the answer, and the codes that it has
-- given to the loader of declared nuclei on the way, in their order.
abbrev Maker (m : Type → Type) (η ν : Type) := η → String → m (Except Failure ν × List String)

namespace Maker

variable [Monad m]

-- The maker that leaves it to the loader.
def loader [PatternLanguage π] (embed : Declared π → ν) : Maker m η ν :=
  fun _ code => return ((Declared.load code).map embed, [code])

-- A maker that counts how often it is asked.
def counted (maker : Maker m η ν) : Maker (StateT Nat m) η ν := fun host code => do
  modify (· + 1)
  maker host code

variable (π) in
-- The factory of a maker, which leaves the records of the loader.
def factory [PatternLanguage π] (maker : Maker m η ν) : Factory m η ν := fun host code => do
  let (result, codes) ← maker host code
  return (result, codes.flatMap fun code => (Declared.build (π := π) host code).2)

theorem factory_loader [LawfulMonad m] [PatternLanguage π] (embed : Declared π → ν) :
    (loader embed : Maker m η ν).factory π = .ofDeclared embed := by
  funext host code
  simp [factory, loader, Factory.ofDeclared, Declared.result_build]

end Maker

namespace Session

-- A registration of a maker, as a factory, in a slot, or as the one that comes with the host.
inductive QuietRegistration (m : Type → Type) (η ν : Type) where
  | factory (name : String) (maker : Maker m η ν)
  | slot (name : String) (maker? : Option (Maker m η ν))
  | builtin

-- A step of a session all of whose factories are those of makers.
inductive QuietStep (m : Type → Type) (η ν : Type) where
  | registration (g : QuietRegistration m η ν)
  | creation (host : η) (type code : String)
  | use (slot : Nat) (u : Nucleus.Use)

namespace QuietRegistration

def name : QuietRegistration m η ν → String
  | factory name _ => name
  | slot name _    => name
  | builtin        => Declared.typeName

variable [Monad m] [PatternLanguage π] (embed : Declared π → ν)

def maker? : QuietRegistration m η ν → Option (Maker m η ν)
  | factory _ maker => some maker
  | slot _ maker?   => maker?
  | builtin         => some (.loader embed)

-- The same registration with a maker that counts.
def counted (g : QuietRegistration m η ν) : QuietRegistration (StateT Nat m) η ν :=
  slot g.name ((g.maker? embed).map .counted)

variable (π) in
def registration : QuietRegistration m η ν → Registration m η ν
  | factory name maker => .factory name (maker.factory π)
  | slot name maker?   => .slot name (maker?.map (·.factory π))
  | builtin            => .builtin

end QuietRegistration

namespace QuietStep

variable [Monad m] [PatternLanguage π]

def counted (embed : Declared π → ν) : QuietStep m η ν → QuietStep (StateT Nat m) η ν
  | registration g          => registration (g.counted embed)
  | creation host type code => creation host type code
  | use slot u              => use slot u

variable (π) in
def step : QuietStep m η ν → Step m η ν
  | registration g          => .request (.registration (g.registration π))
  | creation host type code => .request (.creation host type code)
  | use slot u              => .use slot u

end QuietStep

-- What comes of a step.
inductive Outcome (ν : Type) where
  | registered
  | refused
  | made (n : ν)
  | failed
  | used

-- What comes of a step, and its records with their levels and their texts.
abbrev Row (ν : Type) := Outcome ν × List (Logging.Level × String)

def outcomeOf : Except Failure ν → Outcome ν
  | .ok n    => .made n
  | .error _ => .failed

def Result.outcome : Result ν → Outcome ν
  | request (.registration (.ok _))    => .registered
  | request (.registration (.error _)) => .refused
  | request (.creation (result, _))    => outcomeOf result
  | use _                              => .used

def Result.row (r : Result ν) : Row ν :=
  (r.outcome, r.events.map fun e => (e.level, e.message))

section Audit

-- The entry types for which code declares rules.
def declaredTypes (code : String) : List String :=
  match Json.Value.ofText code with
  | .ok document => Declared.entryTypes document
  | .error _     => []

variable [Monad m] [Nucleus ν] [PatternLanguage π] (embed : Declared π → ν)

-- A registration leaves a record if there is something to register under a new name.
def auditRegistration (known : List (String × Maker m η ν)) (g : QuietRegistration m η ν) :
    Row ν × List (String × Maker m η ν) :=
  match g.maker? embed with
  | none => ((.refused, []), known)
  | some maker =>
    if g.name ∈ known.map Prod.fst then ((.refused, []), known)
    else
      ((.registered,
          [(.info, "event=nucleus_register module=registry status=ok type=" ++ g.name)]),
        (g.name, maker) :: known)

-- The loader leaves a record only if it succeeds.
def auditLoad (code : String) : List (Logging.Level × String) :=
  match Declared.load code with
  | .error _ => []
  | .ok n =>
    [(.debug, "event=nucleus_load module=static status=ok functions=" ++
      toString (Nucleus.interfaces (embed n)).length ++ " entry_rules=" ++
      toString (declaredTypes code).dedup.length)]

-- A creation leaves a record before the maker answers, who leaves those of the loader alone.
def creationRow (type code : String) (made : Except Failure ν × List String) : Row ν :=
  (outcomeOf made.1,
    (.debug, "event=nucleus_create module=registry status=start type=" ++ type ++ " code_bytes=" ++
      toString code.utf8ByteSize) :: made.2.flatMap (auditLoad embed))

-- Nothing is recorded where a type is not known.
def auditCreation (known : List (String × Maker m η ν)) (host : η) (type code : String) :
    m (Row ν) :=
  match Json.findMember? type known with
  | none       => return (.failed, [])
  | some maker => return creationRow embed type code (← maker host code)

-- The rows of steps one after another, given the makers that are known by name.
def audit (known : List (String × Maker m η ν)) : List (QuietStep m η ν) → m (List (Row ν))
  | [] => return []
  | .registration g :: steps => do
    let (row, known) := auditRegistration embed known g
    return row :: (← audit known steps)
  | .creation host type code :: steps => do
    let row ← auditCreation embed known host type code
    return row :: (← audit known steps)
  | .use _ _ :: steps => return (.used, []) :: (← audit known steps)

def isCreation (text : String) : Bool :=
  "event=nucleus_create ".toList.isPrefixOf text.toList

-- The number of records of creations.
def creations (rows : List (Row ν)) : Nat :=
  (rows.flatMap Prod.snd).countP fun r => isCreation r.2

end Audit

section Makers

variable [Monad m] [PatternLanguage π] {r : Registry m η ν} {known : List (String × Maker m η ν)}

variable (π) in
-- A registry with the factories of known makers.
def Knows (r : Registry m η ν) (known : List (String × Maker m η ν)) : Prop :=
  r.factories.Perm (known.map fun k => (k.1, k.2.factory π))

theorem Knows.mem_typeNames_iff (h : Knows π r known) {name : String} :
    name ∈ r.typeNames ↔ name ∈ known.map Prod.fst := by
  have hp : r.typeNames.Perm (known.map Prod.fst) := by
    simpa [Registry.typeNames, Function.comp_def] using h.map Prod.fst
  exact hp.mem_iff

theorem Knows.factory?_eq (h : Knows π r known) (name : String) :
    r.factory? name = (Json.findMember? name known).map (·.factory π) := by
  rw [Registry.factory?, Json.findMember?_of_perm r.typeNames_nodup h]
  exact Json.findMember?_map (·.factory π) known name

theorem Knows.insert (h : Knows π r known) {r' : Registry m η ν} {name : String}
    {maker : Maker m η ν} (hn : name ∉ r.typeNames)
    (hr : r'.factories = Json.insertMember name (maker.factory π) r.factories) :
    Knows π r' ((name, maker) :: known) := by
  rw [Knows, hr]
  exact (Json.insertMember_perm hn).trans (h.cons _)

theorem QuietRegistration.name_registration (g : QuietRegistration m η ν) :
    (g.registration π).name = g.name := by
  cases g <;> rfl

theorem QuietRegistration.factory?_registration [LawfulMonad m] (g : QuietRegistration m η ν)
    (embed : Declared π → ν) :
    (g.registration π).factory? embed = (g.maker? embed).map (·.factory π) := by
  cases g
  case factory => rfl
  case slot    => rfl
  case builtin => exact congrArg some (Maker.factory_loader embed).symm

-- A registration gives its row, and a registry with the makers that are known then.
theorem perform_eq_audit [LawfulMonad m] (embed : Declared π → ν) (h : Knows π r known)
    (g : QuietRegistration m η ν) :
    ∃ result r', r.perform embed (g.registration π) = (result, r') ∧
      (Result.request (ν := ν) (.registration result)).row = (auditRegistration embed known g).1 ∧
      Knows π r' (auditRegistration embed known g).2 := by
  have hf := g.factory?_registration embed
  have hname := g.name_registration (π := π)
  cases hm : g.maker? embed <;> rw [hm] at hf <;> simp only [auditRegistration, hm]
  case none => exact ⟨_, r, Registry.perform_of_missing hf, rfl, h⟩
  case some maker =>
    by_cases hn : g.name ∈ known.map Prod.fst
    case pos =>
      refine ⟨_, r, Registry.perform_of_mem hf ?_, ?_⟩
      · rwa [hname, h.mem_typeNames_iff]
      · rw [if_pos hn]
        exact ⟨rfl, h⟩
    case neg =>
      have hn' : g.name ∉ r.typeNames := h.mem_typeNames_iff.not.2 hn
      obtain ⟨r', hp, hr⟩ := Registry.perform_of_not_mem hf (hname ▸ hn')
      rw [hname] at hp hr
      refine ⟨_, r', hp, ?_⟩
      rw [if_neg hn]
      exact ⟨rfl, h.insert hn' hr⟩

end Makers

section Rows

variable [Monad m] [LawfulMonad m] [Nucleus ν] [PatternLanguage π] {embed : Declared π → ν}
  {known : List (String × Maker m η ν)}

theorem length_declaredTypes {code : String} {n : Declared π} (h : Declared.load code = .ok n) :
    (declaredTypes code).dedup.length = n.rules.length := by
  obtain ⟨document, hd, hr, hn⟩ := Declared.rules_of_load h
  rw [declaredTypes, hd, hn.dedup, ← hr, List.length_map]

-- The records of the loader for code.
theorem records_of_build (hembed : ∀ n, Nucleus.interfaces (embed n) = Nucleus.interfaces n)
    (host : η) (code : String) :
    (Declared.build (π := π) host code).2.map (fun e => (e.level, e.message)) =
      auditLoad embed code := by
  simp only [auditLoad, Declared.build]
  cases hl : Declared.load (π := π) code
  case error e => rfl
  case ok n =>
    dsimp only
    rw [hembed, length_declaredTypes hl]
    rfl

-- What a registry creates, as its row.
theorem row_of_create (hembed : ∀ n, Nucleus.interfaces (embed n) = Nucleus.interfaces n)
    {r : Registry m η ν} (h : Knows π r known) (host : η) (type code : String) :
    (fun made => (Result.request (.creation made)).row) <$> r.create host type code =
      auditCreation embed known host type code := by
  unfold Registry.create auditCreation
  rw [h.factory?_eq]
  cases Json.findMember? type known
  case none => simp [Result.row, Result.outcome, Result.events, Answer.events, outcomeOf]
  case some maker =>
    simp only [Option.map_some, Maker.factory, map_bind, bind_assoc, pure_bind, map_pure]
    refine bind_congr fun made => congrArg pure ?_
    simp only [Result.row, Result.outcome, Result.events, Answer.events, List.map_cons,
      List.map_flatMap, records_of_build hembed]
    rfl

-- The rows of a session.
def rows (out : List (Result ν) × Session m η ν) : List (Row ν) :=
  out.1.map Result.row

theorem rows_of_takeAll_cons (s : Session m η ν) (step : Step m η ν) (steps : List (Step m η ν)) :
    rows <$> s.takeAll embed (step :: steps) = do
      let (result, s) ← s.take embed step
      let rest ← rows <$> s.takeAll embed steps
      return result.row :: rest := by
  simp [takeAll, rows]

theorem rows_of_takeAll (hembed : ∀ n, Nucleus.interfaces (embed n) = Nucleus.interfaces n)
    (steps : List (QuietStep m η ν)) {s : Session m η ν} (h : Knows π s.registry known) :
    rows <$> s.takeAll embed (steps.map (·.step π)) = audit embed known steps := by
  induction steps generalizing s known
  case nil => simp [takeAll, audit, rows]
  case cons step steps hi =>
    rw [List.map_cons, rows_of_takeAll_cons]
    generalize steps.map (·.step π) = rest at hi
    cases step
    case registration g =>
      obtain ⟨result, r', hp, hrow, hk⟩ := perform_eq_audit embed h g
      have hi (nuclei : List ν) := hi (s := ⟨r', nuclei⟩) hk
      simp only [QuietStep.step, take, Registry.serve, hp, pure_bind, hrow, hi, audit]
    case creation host type code =>
      -- What is created is put among the nuclei, and the registry stays as it is.
      have hi (nuclei : List ν) := hi (s := ⟨s.registry, nuclei⟩) h
      simp only [QuietStep.step, take, Registry.serve, bind_assoc, pure_bind, hi]
      simp only [audit, ← row_of_create hembed h, bind_map_left]
    case use slot u =>
      simp only [QuietStep.step, take, audit]
      split
      case h_1 =>
        simp only [pure_bind, hi h]
        rfl
      case h_2 n hn =>
        have hi := hi (s := ⟨s.registry, s.nuclei.set slot (Nucleus.use n u).2⟩) h
        simp only [pure_bind, hi]
        rfl

end Rows

section Counting

theorem creations_cons (row : Row ν) (rows : List (Row ν)) :
    creations (row :: rows) = creations [row] + creations rows := by
  simp [creations]

variable [Monad m] {known : List (String × Maker m η ν)}

-- The known makers, each of which counts how often it is asked.
def countedMakers (known : List (String × Maker m η ν)) : List (String × Maker (StateT Nat m) η ν) :=
  known.map fun k => (k.1, k.2.counted)

variable [PatternLanguage π] {embed : Declared π → ν}

theorem creations_auditRegistration (g : QuietRegistration m η ν) :
    creations [(auditRegistration embed known g).1] = 0 := by
  unfold auditRegistration
  split
  case h_1 => rfl
  case h_2 =>
    split
    case isTrue => rfl
    case isFalse => simp [creations, isCreation]

theorem auditRegistration_counted (g : QuietRegistration m η ν) :
    auditRegistration embed (countedMakers known) (g.counted embed) =
      ((auditRegistration embed known g).1, countedMakers (auditRegistration embed known g).2) := by
  have hn : (countedMakers known).map Prod.fst = known.map Prod.fst := by
    simp [countedMakers]
  have hm : (g.counted embed).maker? embed = (g.maker? embed).map .counted := rfl
  have hname : (g.counted embed).name = g.name := rfl
  simp only [auditRegistration, hm, hn, hname]
  cases g.maker? embed
  case none => rfl
  case some maker =>
    dsimp only [Option.map_some]
    split <;> rfl

variable [Nucleus ν]

theorem not_isCreation_of_mem_auditLoad {code : String} {r : Logging.Level × String}
    (h : r ∈ auditLoad embed code) : isCreation r.2 = false := by
  unfold auditLoad at h
  split at h
  case h_1 => cases h
  case h_2 =>
    cases List.mem_singleton.1 h
    simp [isCreation, List.isPrefixOf]

theorem creations_creationRow (type code : String) (made : Except Failure ν × List String) :
    creations [creationRow embed type code made] = 1 := by
  have hload : (made.2.flatMap (auditLoad embed)).countP (fun r => isCreation r.2) = 0 := by
    rw [List.countP_eq_zero]
    intro r hr
    obtain ⟨code, -, hr⟩ := List.mem_flatMap.1 hr
    simp [not_isCreation_of_mem_auditLoad hr]
  simp only [creations, creationRow, List.flatMap_singleton, List.countP_cons, hload]
  simp [isCreation]

variable [LawfulMonad m]

theorem run_auditCreation_counted (host : η) (type code : String) (k : Nat) :
    (auditCreation embed (countedMakers known) host type code).run k =
      (fun row => (row, k + creations [row])) <$> auditCreation embed known host type code := by
  unfold auditCreation
  rw [countedMakers, Json.findMember?_map Maker.counted]
  cases Json.findMember? type known
  case none => simp [creations]
  case some maker => simp [Maker.counted, creations_creationRow]

theorem run_audit_counted (embed : Declared π → ν) (known : List (String × Maker m η ν))
    (steps : List (QuietStep m η ν)) (k : Nat) :
    (audit embed (countedMakers known) (steps.map (.counted embed))).run k =
      (fun rows => (rows, k + creations rows)) <$> audit embed known steps := by
  induction steps generalizing known k
  case nil => simp [audit, creations]
  case cons step steps hi =>
    cases step
    case registration g =>
      have hc (rows : List (Row ν)) :
          creations ((auditRegistration embed known g).1 :: rows) = creations rows := by
        rw [creations_cons, creations_auditRegistration, Nat.zero_add]
      simp [audit, QuietStep.counted, auditRegistration_counted, hi, hc]
    case creation host type code =>
      simp [audit, QuietStep.counted, run_auditCreation_counted, hi, Nat.add_assoc,
        ← creations_cons]
    case use slot u =>
      have hc (rows : List (Row ν)) : creations ((.used, []) :: rows) = creations rows := rfl
      simp [audit, QuietStep.counted, hi, hc]

end Counting

-- Each step leaves the records that the audit tells, text by text, and no others; and where each factory
-- counts its calls, there are as many calls as records of creations.
theorem records_are_as_audited [Monad m] [LawfulMonad m] [Nucleus ν] [PatternLanguage π]
    (embed : Declared π → ν) (hembed : ∀ n, Nucleus.interfaces (embed n) = Nucleus.interfaces n)
    (steps : List (QuietStep m η ν)) :
    rows <$> empty.takeAll embed (steps.map (QuietStep.step π)) = audit embed [] steps ∧
      ∀ k, Prod.map rows id <$>
          (empty.takeAll embed ((steps.map (QuietStep.counted embed)).map (QuietStep.step π))).run k =
        (fun rows => (rows, k + creations rows)) <$> audit embed [] steps := by
  have hempty : Knows π (empty : Session m η ν).registry [] := .nil
  have hempty' : Knows π (empty : Session (StateT Nat m) η ν).registry [] := .nil
  refine ⟨rows_of_takeAll hembed steps hempty, fun k => ?_⟩
  have hcounted := run_audit_counted embed [] steps k
  rw [← hcounted, countedMakers, List.map_nil, ← rows_of_takeAll hembed _ hempty', StateT.run_map]
  rfl

-- A function, and twice the rules for one entry type whose name is longer in bytes than in characters.
def auditedCode : String :=
  "\x7b\"functions\":[[\"f\",\"json\"]],\"entries\":\x7b\"é\":\x7b\x7d,\"é\":\x7b\x7d\x7d\x7d"

-- A maker that tries other code than its own, and fails although some of it can be loaded.
def stubbornMaker : Maker Id Unit (Declared Pattern) :=
  fun _ _ => (.error (.failed ""), ["é", auditedCode])

-- What is refused, what fails, and what is used leave no records; code that cannot be loaded leaves one.
def auditedSteps : List (QuietStep Id Unit (Declared Pattern)) :=
  [.registration .builtin, .registration (.slot "b" none), .registration .builtin,
    .registration (.factory "a" stubbornMaker),
    .creation () Declared.typeName auditedCode, .use 0 (.call "g" (.text "")),
    .creation () Declared.typeName "é", .creation () "a" "", .creation () "b" ""]

def auditedRecords : List (List (Logging.Level × String)) :=
  [[(.info, "event=nucleus_register module=registry status=ok type=static")], [], [],
    [(.info, "event=nucleus_register module=registry status=ok type=a")],
    [(.debug, "event=nucleus_create module=registry status=start type=static code_bytes=56"),
      (.debug, "event=nucleus_load module=static status=ok functions=1 entry_rules=1")], [],
    [(.debug, "event=nucleus_create module=registry status=start type=static code_bytes=2")],
    [(.debug, "event=nucleus_create module=registry status=start type=a code_bytes=0"),
      (.debug, "event=nucleus_load module=static status=ok functions=1 entry_rules=1")], []]

theorem records_are_as_audited_despite_failures :
    (rows <$> empty.takeAll id (auditedSteps.map (QuietStep.step Pattern))).run.map Prod.snd =
        auditedRecords ∧
      (Prod.map rows id <$> (empty.takeAll id ((auditedSteps.map (QuietStep.counted id)).map
        (QuietStep.step Pattern))).run 0).run.2 = 3 := by
  have hloaded : auditLoad (id : Declared Pattern → _) auditedCode =
      [(.debug, "event=nucleus_load module=static status=ok functions=1 entry_rules=1")] := by
    have hs : Declared.Source.ofText auditedCode =
        .ok ⟨[⟨"f", .json, none, none⟩], [("é", Declared.RulesDecl.empty)]⟩ := by cbv
    have hd : declaredTypes auditedCode = ["é"] := by cbv
    obtain ⟨n, hn⟩ := Declared.exists_load (π := Pattern) hs (by decide)
    rw [auditLoad, hn, hd]
    rw [Declared.load_of_ofText hs] at hn
    cases hn
    rfl
  have hrefused : auditLoad (id : Declared Pattern → _) "é" = [] := by
    have hf : Declared.Source.ofText "é" = .error ⟨.expectedValue, 1⟩ := by cbv
    rw [auditLoad, Declared.load, hf]
  have hbytes : auditedCode.utf8ByteSize.repr = "56" ∧ "é".utf8ByteSize.repr = "2" ∧
      Nat.repr 0 = "0" := by decide +kernel
  have hstubborn : stubbornMaker = fun _ _ => pure (.error (.failed ""), ["é", auditedCode]) := rfl
  have haudit : (audit id [] auditedSteps).run.map Prod.snd = auditedRecords := by
    simp [audit, auditedSteps, auditedRecords, auditRegistration, auditCreation, creationRow, hloaded,
      hrefused, hbytes, QuietRegistration.maker?, QuietRegistration.name, Json.findMember?,
      Maker.loader, hstubborn, Declared.typeName]
  obtain ⟨hrows, hcalls⟩ := records_are_as_audited id (fun _ => rfl) auditedSteps
  rw [hrows, hcalls, Id.run_map, creations, List.flatMap_def, haudit]
  exact ⟨rfl, by decide +kernel⟩

end Session
end ChainHost
