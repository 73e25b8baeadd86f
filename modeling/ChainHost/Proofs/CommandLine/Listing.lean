import ChainHost.Proofs.CommandLine.Logging
import ChainHost.Proofs.Text.Lines

namespace ChainHost.CommandLine

section Listing

-- The answer to the command `list`.
def listing (interfaces : List Interface) : String :=
  unlines (("nucleus=" ++ Declared.typeName) :: interfaces.map interfaceLine)

-- What comes before a name in its line, and what comes after it.
def opening : String := "interface="

def ending (s : Schema) : String :=
  " schema=" ++ s.name ++ "\n"

def entry (i : Interface) : List Char :=
  opening.toList ++ (i.name.toList ++ (ending i.schema).toList)

-- What stands between two names.
def seam (s : Schema) : String :=
  ending s ++ opening

-- A name that does not look like two of them.
def Readable (name : String) : Prop :=
  ∀ s : Schema, ¬(seam s).toList <:+: name.toList

variable {i j : Interface} {is js : List Interface} {s t : Schema}

theorem toList_unlines (lines : List String) :
    (unlines lines).toList = (lines.map String.toList).flatMap (· ++ ['\n']) := by
  simp [unlines, String.toList_join, List.flatMap_map]

theorem toList_interfaceLine (i : Interface) : (interfaceLine i).toList ++ ['\n'] = entry i := by
  have hline : interfaceLine i ++ "\n" = opening ++ (i.name ++ ending i.schema) := by
    simp only [interfaceLine, opening, ending, String.append_assoc]
  rw [entry, ← String.toList_append, ← String.toList_append, ← hline, String.toList_append]
  rfl

theorem toList_listing (is : List Interface) :
    (listing is).toList =
      ("nucleus=" ++ Declared.typeName).toList ++ '\n' :: is.flatMap entry := by
  rw [listing, toList_unlines, List.map_cons, List.flatMap_cons, List.map_map, List.flatMap_map]
  simp only [Function.comp_apply, toList_interfaceLine, List.append_assoc, List.singleton_append]

-- A name in which two are seen is listed as the two are.
theorem listing_seam (before after : List Interface) (name name' : String) (s t : Schema) :
    listing (before ++ ⟨name ++ seam s ++ name', t⟩ :: after) =
      listing (before ++ ⟨name, s⟩ :: ⟨name', t⟩ :: after) := by
  rw [← String.toList_inj, toList_listing, toList_listing]
  simp [entry, seam]

theorem readable_of_not_mem {name : String} (h : '\n' ∉ name.toList) : Readable name := by
  intro s hs
  refine h (hs.subset ?_)
  cases s <;> decide

theorem exists_ending (s : Schema) :
    ∃ body, (ending s).toList = ' ' :: body ∧ ' ' ∉ body ++ opening.toList := by
  cases s <;> exact ⟨_, rfl, by decide⟩

theorem ending_append_inj {rest rest' : List Char}
    (h : (ending s).toList ++ rest = (ending t).toList ++ rest') : s = t ∧ rest = rest' := by
  cases s <;> cases t <;> simp_all [ending, Schema.name]

-- What has no `c` in it ends before the first one.
theorem prefix_of_append_eq {α : Type} {as bs cs ds : List α} {c : α}
    (h : as ++ bs = cs ++ c :: ds) (hc : c ∉ as) : as <+: cs := by
  rcases List.append_eq_append_iff.1 h with ⟨es, rfl, -⟩ | ⟨es, rfl, he⟩
  case inl => exact List.prefix_append _ _
  case inr =>
    cases es
    case nil => simp
    case cons =>
      obtain ⟨rfl, -⟩ := List.cons.inj he
      simp at hc

-- A name ends where it seems to, unless a longer one looks like it and another one.
theorem eq_of_isPrefix {name name' rest : List Char}
    (h : name ++ ((ending s).toList ++ is.flatMap entry) = name' ++ ((ending t).toList ++ rest))
    (hseam : ¬(seam s).toList <:+: name') (hfront : name <+: name') : name = name' := by
  obtain ⟨more, rfl⟩ := hfront
  obtain ⟨body, hs, hbody⟩ := exists_ending s
  obtain ⟨body', ht, -⟩ := exists_ending t
  rw [List.append_assoc, List.append_cancel_left_eq, hs, ht] at h
  cases more
  case nil => rw [List.append_nil]
  case cons c more =>
    obtain ⟨rfl, hmore⟩ : ' ' = c ∧ body ++ is.flatMap entry = more ++ ' ' :: (body' ++ rest) :=
      List.cons.inj h
    cases is
    case nil =>
      rw [List.flatMap_nil, List.append_nil] at hmore
      refine absurd (List.mem_append_left _ ?_) hbody
      rw [hmore]
      exact List.mem_append_right _ List.mem_cons_self
    case cons i is =>
      rw [List.flatMap_cons, entry, List.append_assoc, ← List.append_assoc body] at hmore
      obtain ⟨more, rfl⟩ := prefix_of_append_eq hmore hbody
      refine absurd ⟨name, more, ?_⟩ hseam
      simp [seam, hs]

theorem entry_append_ne_nil (i : Interface) (rest : List Char) : entry i ++ rest ≠ [] := by
  have ho : opening ≠ "" := by decide
  simp [entry, ho]

theorem entry_append_inj (hi : Readable i.name) (hj : Readable j.name)
    (h : entry i ++ is.flatMap entry = entry j ++ js.flatMap entry) :
    i = j ∧ is.flatMap entry = js.flatMap entry := by
  obtain ⟨name, schema⟩ := i
  obtain ⟨name', schema'⟩ := j
  simp only [entry, List.append_assoc, List.append_cancel_left_eq] at h
  obtain rfl : name = name' := by
    rw [← String.toList_inj]
    rcases List.prefix_or_prefix_of_prefix (List.prefix_append _ _) (h ▸ List.prefix_append _ _)
      with hp | hp
    case inl => exact (eq_of_isPrefix h.symm (hi _) hp).symm
    case inr => exact eq_of_isPrefix h (hj _) hp
  rw [List.append_cancel_left_eq] at h
  obtain ⟨rfl, hrest⟩ := ending_append_inj h
  exact ⟨rfl, hrest⟩

theorem flatMap_entry_injective (hi : ∀ i ∈ is, Readable i.name) (hj : ∀ j ∈ js, Readable j.name)
    (h : is.flatMap entry = js.flatMap entry) : is = js := by
  induction is generalizing js
  case nil =>
    cases js
    case nil  => rfl
    case cons => exact absurd h.symm (entry_append_ne_nil _ _)
  case cons i is ih =>
    cases js
    case nil => exact absurd h (entry_append_ne_nil _ _)
    case cons j js =>
      obtain ⟨hi, his⟩ := List.forall_mem_cons.1 hi
      obtain ⟨hj, hjs⟩ := List.forall_mem_cons.1 hj
      obtain ⟨rfl, hrest⟩ := entry_append_inj hi hj h
      rw [ih his hjs hrest]

theorem listing_injective (hi : ∀ i ∈ is, Readable i.name) (hj : ∀ j ∈ js, Readable j.name)
    (h : listing is = listing js) : is = js := by
  have hlist := congrArg String.toList h
  rw [toList_listing, toList_listing, List.append_cancel_left_eq] at hlist
  exact flatMap_entry_injective hi hj (List.cons.inj hlist).2

theorem count_interfaceLine (i : Interface) :
    (interfaceLine i).toList.count '\n' = i.name.toList.count '\n' := by
  have hschema : i.schema.name.toList.count '\n' = 0 := by cases i.schema <;> decide
  simp [interfaceLine, hschema, -List.count_eq_one_of_mem]

-- A line for the type, one for each interface, and one more for each line feed in a name.
theorem length_lines_listing (is : List Interface) :
    (Text.lines (listing is).toList).length =
      is.length + 1 + (is.map fun i => i.name.toList.count '\n').sum := by
  have htype : ("nucleus=" ++ Declared.typeName).toList.count '\n' = 0 := by decide
  rw [Text.length_lines, listing, toList_unlines, Text.count_flatMap, List.count_flatten,
    List.map_cons, List.map_cons, List.sum_cons, htype]
  simp [Function.comp_def, count_interfaceLine]

theorem lines_listing (h : ∀ i ∈ is, '\n' ∉ i.name.toList) :
    Text.lines (listing is).toList =
      ("nucleus=" ++ Declared.typeName).toList :: is.map fun i => (interfaceLine i).toList := by
  have hlines : ∀ line ∈ (("nucleus=" ++ Declared.typeName) :: is.map interfaceLine).map
      String.toList, '\n' ∉ line := by
    rw [List.map_cons, List.forall_mem_cons, List.map_map, List.forall_mem_map]
    refine ⟨by decide, fun i hi => ?_⟩
    rw [Function.comp_apply, ← List.count_eq_zero, count_interfaceLine, List.count_eq_zero]
    exact h i hi
  rw [listing, toList_unlines, Text.lines_flatMap hlines, List.map_cons, List.map_map]
  rfl

end Listing

section Run

variable {π : Type} [PatternLanguage π] {σ σ' : Type} {w : World σ} {w' : World σ'} {x : σ} {x' : σ'} {e e' : Logging.Environment}
  {path path' : String} {n n' : Declared π}

-- How a run ends that lists the interfaces of a nucleus.
structure ListsInLines (n : Declared π) (o : Outcome) : Prop where
  exit     : o.exit = 0
  output   : o.output = listing (Nucleus.interfaces n)
  length   : (Text.lines o.output.toList).length = (Nucleus.interfaces n).length + 1 +
    ((Nucleus.interfaces n).map fun i => i.name.toList.count '\n').sum
  unbroken : (∀ i ∈ Nucleus.interfaces n, '\n' ∉ i.name.toList) →
    Text.lines o.output.toList = "nucleus=static".toList ::
      (Nucleus.interfaces n).map fun i => ("interface=" ++ i.name ++ " schema=" ++ i.schema.name).toList

theorem Starts.listsInLines (hp : path ≠ "--version")
    (hs : Starts (w.read (startingWorld w x e)) path (.ok n)) :
    ListsInLines n ((run π w.system e [path]).run x).1 := by
  obtain ⟨warnings, hrun⟩ := hs.exists_run hp .listed
  have houtput : ((run π w.system e [path]).run x).1.output = listing (Nucleus.interfaces n) := by
    rw [hrun]
    rfl
  exact {
    exit     := by rw [hrun]; rfl
    output   := houtput
    length   := by rw [houtput, length_lines_listing]
    unbroken := fun h => by rw [houtput, lines_listing h]; rfl }

-- The interfaces that are listed are the functions of the source, as they are declared. They can be
-- read back from the output, unless a name looks like two of them.
theorem listing_is_read_back (w : World σ) (w' : World σ') (x : σ) (x' : σ')
    (e e' : Logging.Environment) (hp : path ≠ "--version")
    (hs : Starts (w.read (startingWorld w x e)) path (.ok n)) (hp' : path' ≠ "--version")
    (hs' : Starts (w'.read (startingWorld w' x' e')) path' (.ok n')) :
    (∃ m code s, Manifest.loadFrom (w.read (startingWorld w x e)) path = .ok m ∧
      m.sourceCodeFrom (w.read (startingWorld w x e)) (Manifest.baseOf path) = .ok code ∧
      Declared.Source.ofText code = .ok s ∧
      Nucleus.interfaces n = s.functions.map fun d => ⟨d.name, d.schema⟩) ∧
    ListsInLines n ((run π w.system e [path]).run x).1 ∧
    ((∀ i ∈ Nucleus.interfaces n, Readable i.name) →
      (∀ i ∈ Nucleus.interfaces n', Readable i.name) →
      ((run π w.system e [path]).run x).1.output = ((run π w'.system e' [path']).run x').1.output →
      Nucleus.interfaces n = Nucleus.interfaces n') := by
  have hlists := hs.listsInLines hp
  refine ⟨?source, hlists, fun hr hr' ho => ?read⟩
  case source =>
    obtain ⟨m, code, s, hm, hc, hs, l⟩ := hs.exists_source
    exact ⟨m, code, s, hm, hc, hs, l.interfaces_eq⟩
  case read =>
    rw [hlists.output, (hs'.listsInLines hp').output] at ho
    exact listing_injective hr hr' ho

section Example

-- Three manifests, and the files with their code. The one function of the first looks like the two of
-- the second.
def listedFiles : List (String × String) :=
  [("one", "[\"c\",[\"static\",null,\"one.json\"]]"),
    ("one.json", "[[[\"a schema=json\\ninterface=b\",\"json\"]]]"),
    ("two", "[\"c\",[\"static\",null,\"two.json\"]]"),
    ("two.json", "[[[\"a\",\"json\"],[\"b\",\"json\"]]]"),
    ("three", "[\"c\",[\"static\",null,\"three.json\"]]"),
    ("three.json", "[[[\"b\",\"json\"],[\"a\",\"json\"]]]")]

def listedWorld : World Unit where
  read _ path      := ((Json.findMember? path listedFiles).map .ok).getD (.error .notFound)
  startLogging _ _ := (.ok (), ())
  record _ _ _     := ()
  errors _         := ""

theorem exists_starts_listed (path : String) {code : String} {s : Declared.Source}
    (hm : Manifest.loadFrom (listedWorld.read ()) path =
      .ok ⟨"c", "static", none, some (path ++ ".json")⟩)
    (hc : Manifest.sourceCodeFrom (listedWorld.read ()) ⟨"c", "static", none, some (path ++ ".json")⟩
      (Manifest.baseOf path) = .ok code)
    (hs : Declared.Source.ofText code = .ok s) (hd : s.defects Pattern = []) :
    ∃ n : Declared Pattern, Starts (listedWorld.read ()) path (.ok n) ∧
      Nucleus.interfaces n = s.functions.map Declared.FunctionDecl.interface := by
  obtain ⟨n, hn⟩ := Declared.exists_load (π := Pattern) hs hd
  obtain ⟨s', hs', l⟩ := Declared.load_eq_ok hn
  cases hs.symm.trans hs'
  exact ⟨n, .started hm hc rfl hn, l.interfaces_eq⟩

theorem listing_is_read_back_but_for_seams :
    ∃ n n' : Declared Pattern, Starts (listedWorld.read ()) "one" (.ok n) ∧
      Starts (listedWorld.read ()) "two" (.ok n') ∧
      (Nucleus.interfaces n).length = 1 ∧ (Nucleus.interfaces n').length = 2 ∧
      ((run Pattern listedWorld.system ⟨none, none⟩ ["one"]).run ()).1.output =
        "nucleus=static\ninterface=a schema=json\ninterface=b schema=json\n" ∧
      ((run Pattern listedWorld.system ⟨none, none⟩ ["two"]).run ()).1.output =
        "nucleus=static\ninterface=a schema=json\ninterface=b schema=json\n" ∧
      ((run Pattern listedWorld.system ⟨none, none⟩ ["two"]).run ()).1.output ≠
        ((run Pattern listedWorld.system ⟨none, none⟩ ["three"]).run ()).1.output := by
  have hone : Declared.Source.ofText "[[[\"a schema=json\\ninterface=b\",\"json\"]]]" =
      .ok ⟨[⟨"a schema=json\ninterface=b", .json, none, none⟩], []⟩ := by cbv
  have htwo : Declared.Source.ofText "[[[\"a\",\"json\"],[\"b\",\"json\"]]]" =
      .ok ⟨[⟨"a", .json, none, none⟩, ⟨"b", .json, none, none⟩], []⟩ := by cbv
  have hthree : Declared.Source.ofText "[[[\"b\",\"json\"],[\"a\",\"json\"]]]" =
      .ok ⟨[⟨"b", .json, none, none⟩, ⟨"a", .json, none, none⟩], []⟩ := by cbv
  obtain ⟨n, hn, hi⟩ := exists_starts_listed "one" (by decide +kernel) (by decide +kernel) hone
    (by decide)
  obtain ⟨n', hn', hi'⟩ := exists_starts_listed "two" (by decide +kernel) (by decide +kernel) htwo
    (by decide)
  obtain ⟨m, hm, him⟩ := exists_starts_listed "three" (by decide +kernel) (by decide +kernel) hthree
    (by decide)
  obtain ⟨-, hl, -⟩ := listing_is_read_back listedWorld listedWorld () ()
    ⟨none, none⟩ ⟨none, none⟩ (by decide) hn (by decide) hn'
  obtain ⟨-, hl', hread⟩ := listing_is_read_back listedWorld listedWorld () ()
    ⟨none, none⟩ ⟨none, none⟩ (by decide) hn' (by decide) hm
  refine ⟨n, n', hn, hn', by rw [hi]; rfl, by rw [hi']; rfl, ?one, ?two, fun h => ?other⟩
  case one => rw [hl.output, hi]; rfl
  case two => rw [hl'.output, hi']; rfl
  case other =>
    have hnames : ∀ i ∈ Nucleus.interfaces n' ++ Nucleus.interfaces m, '\n' ∉ i.name.toList := by
      rw [hi', him]
      decide
    have hsame := hread (fun i hi => readable_of_not_mem (hnames i (List.mem_append_left _ hi)))
      (fun i hi => readable_of_not_mem (hnames i (List.mem_append_right _ hi))) h
    rw [hi', him] at hsame
    exact absurd hsame (by decide)

end Example
end Run
end ChainHost.CommandLine
