import ChainHost.Proofs.Reports
import ChainHost.Proofs.Text.Utf8
import ChainHost.Storage.Disk
import Mathlib.Data.List.TakeWhile

namespace ChainHost.Disk

variable {d : Disk} {entries : List (String × Disk)} {name : String} {way v : List String}

-- The bytes of a file.
def bytes? : Disk → Option (List UInt8)
  | file content => some content
  | directory _  => none

-- The content of the file at the end of a way of names, if there is a file.
def content? (d : Disk) (way : List String) : Option (List UInt8) :=
  (d.at? way).bind bytes?

theorem content?_directory_cons (name : String) (way : List String) :
    (directory entries).content? (name :: way) =
      (child? name entries).bind fun d => d.content? way := by
  simp only [content?, at?, Option.bind_assoc]

theorem child?_putEntry (name n : String) (d : Disk) (entries : List (String × Disk)) :
    child? n (putEntry name d entries) = if name = n then some d else child? n entries := by
  induction entries
  case nil => simp [putEntry, child?]
  case cons e rest hi =>
    obtain ⟨m, e⟩ := e
    by_cases hm : m = name
    case pos =>
      subst hm
      simp only [putEntry, child?, if_true]
      split <;> rfl
    case neg =>
      have hp : putEntry name d ((m, e) :: rest) = (m, e) :: putEntry name d rest := by
        simp [putEntry, hm]
      rw [hp]
      simp only [child?]
      by_cases hn : m = n
      case pos =>
        have hne : name ≠ n := fun h => hm (hn.trans h.symm)
        rw [if_pos hn, if_neg hne, if_pos hn]
      case neg => rw [if_neg hn, if_neg hn, hi]

-- Where a file may be put: nothing is there, or a file, or a directory without entries.
def Vacant (d : Disk) (way : List String) : Prop :=
  ∀ entries, d.at? way = some (directory entries) → entries = []

theorem Vacant.child (h : Vacant (directory entries) (name :: way)) :
    Vacant ((child? name entries).getD (directory [])) way := by
  intro es he
  cases hc : child? name entries
  case some e =>
    rw [hc, Option.getD_some] at he
    exact h es (by rw [at?, hc, Option.bind_some, he])
  case none =>
    rw [hc, Option.getD_none] at he
    cases way
    case nil => cases he; rfl
    case cons n way => cases he

-- A file that is put somewhere leaves all other files as they are.
theorem content?_putAt_of_ne (h : d.Vacant way) (hv : v ≠ way) (bytes : List UInt8) :
    (d.putAt way (file bytes)).content? v = d.content? v := by
  induction way generalizing d v
  case nil =>
    obtain ⟨n, v, rfl⟩ := List.exists_cons_of_ne_nil hv
    cases d
    case file => rfl
    case directory entries =>
      have he : entries = [] := h entries rfl
      subst he
      rfl
  case cons name way hi =>
    cases d
    case file => rfl
    case directory entries =>
      cases v
      case nil => rfl
      case cons n v =>
        rw [putAt, content?_directory_cons, content?_directory_cons, child?_putEntry]
        split
        case isFalse => rfl
        case isTrue hn =>
          subst hn
          have hne : v ≠ way := fun he => hv (by rw [he])
          rw [Option.bind_some, hi h.child hne]
          cases child? name entries
          case some e => rfl
          case none => cases v <;> rfl

-- A directory keeps its entries' names when something is put where there is no directory.
theorem at?_putAt_directory (h : ∀ es, d.at? way ≠ some (directory es)) (new : Disk)
    (hv : d.at? v = some (directory entries)) :
    ∃ es, (d.putAt way new).at? v = some (directory es) ∧
      ∀ n, (child? n entries).isSome → (child? n es).isSome := by
  induction way generalizing d v
  case nil =>
    cases d
    case file => cases v <;> cases hv
    case directory es => exact absurd rfl (h es)
  case cons name way hi =>
    cases d
    case file => cases v <;> cases hv
    case directory es =>
      rw [putAt]
      cases v
      case nil =>
        cases hv
        refine ⟨_, rfl, fun n hn => ?_⟩
        rw [child?_putEntry]
        split
        case isTrue  => rfl
        case isFalse => exact hn
      case cons n v =>
        rw [at?] at hv ⊢
        rw [child?_putEntry]
        split
        case isFalse => exact ⟨entries, hv, fun _ hm => hm⟩
        case isTrue hn =>
          subst hn
          obtain ⟨e, he, hev⟩ := Option.bind_eq_some_iff.1 hv
          have hc : ∀ es, e.at? way ≠ some (directory es) := by
            intro es' hes
            exact h es' (by rw [at?, he, Option.bind_some, hes])
          rw [he, Option.getD_some, Option.bind_some]
          exact hi hc hev

theorem at?_append_singleton (h : d.at? way = some (directory entries)) (name : String) :
    d.at? (way ++ [name]) = child? name entries := by
  induction way generalizing d
  case nil =>
    cases h
    simp [at?]
  case cons n way hi =>
    cases d
    case file => cases h
    case directory es =>
      rw [at?] at h
      obtain ⟨e, he, hd⟩ := Option.bind_eq_some_iff.1 h
      rw [List.cons_append, at?, he, Option.bind_some, hi hd]

-- What is put into a directory is there.
theorem at?_putAt_self (h : d.at? way = some (directory entries)) (name : String) (new : Disk) :
    (d.putAt (way ++ [name]) new).at? (way ++ [name]) = some new := by
  induction way generalizing d
  case nil =>
    cases h
    simp [putAt, at?, child?_putEntry]
  case cons n way hi =>
    cases d
    case file => cases h
    case directory es =>
      rw [at?] at h
      obtain ⟨e, he, hd⟩ := Option.bind_eq_some_iff.1 h
      rw [List.cons_append, putAt, at?, child?_putEntry, if_pos rfl, Option.bind_some, he]
      exact hi hd

theorem follow_putAt (h : ∀ es, d.at? way ≠ some (directory es)) (new : Disk)
    {start names dest : List String} (hf : d.follow start names = .ok dest) :
    (d.putAt way new).follow start names = .ok dest := by
  induction names generalizing start
  case nil => exact hf
  case cons name names hi =>
    rw [follow] at hf ⊢
    split at hf
    case h_1 => cases hf
    case h_2 => cases hf
    case h_3 es hd =>
      obtain ⟨es', hd', hes⟩ := at?_putAt_directory h new hd
      rw [hd']
      dsimp only
      split at hf
      case isTrue hs =>
        rw [if_pos hs]
        exact hi hf
      case isFalse hs =>
        rw [if_neg hs]
        split at hf
        case isTrue hu =>
          rw [if_pos hu]
          exact hi hf
        case isFalse hu =>
          rw [if_neg hu]
          split at hf
          case isTrue => cases hf
          case isFalse hl =>
            rw [if_neg hl]
            split at hf
            case h_1 => cases hf
            case h_2 c hc =>
              obtain ⟨c', hc'⟩ := Option.isSome_iff_exists.1 (hes name (by rw [hc]; rfl))
              rw [hc']
              exact hi hf

theorem locate_eq_ok_iff {home path : String} :
    d.locate home path = .ok way ↔
      checkPath path = .ok () ∧ d.follow [] (names home path) = .ok way := by
  rw [locate]
  cases checkPath path <;> simp [bind, Except.bind]

theorem locate_putAt (h : ∀ es, d.at? way ≠ some (directory es)) (new : Disk)
    {home path : String} (hl : d.locate home path = .ok v) :
    (d.putAt way new).locate home path = .ok v := by
  obtain ⟨hc, hf⟩ := locate_eq_ok_iff.1 hl
  exact locate_eq_ok_iff.2 ⟨hc, follow_putAt h new hf⟩

theorem follow_append (start first second : List String) :
    d.follow start (first ++ second) = d.follow start first >>= fun way => d.follow way second := by
  induction first generalizing start
  case nil => rfl
  case cons name first hi =>
    rw [List.cons_append, follow, follow]
    cases d.at? start
    case none => rfl
    case some e =>
      cases e
      case file => rfl
      case directory es =>
        dsimp only
        split
        case isTrue => exact hi start
        case isFalse =>
          split
          case isTrue => exact hi _
          case isFalse =>
            split
            case isTrue => rfl
            case isFalse =>
              cases child? name es
              case none   => rfl
              case some e => exact hi _

-- Empty names at the end of a path lead nowhere.
theorem follow_of_forall_isEmpty (hd : d.at? way = some (directory entries)) {names : List String}
    (hn : ∀ name ∈ names, name.isEmpty) : d.follow way names = .ok way := by
  induction names
  case nil => rfl
  case cons name names hi =>
    obtain ⟨hname, hnames⟩ := List.forall_mem_cons.1 hn
    have he : name = "" := by simpa using hname
    rw [follow, hd]
    dsimp only
    rw [if_pos (.inl he)]
    exact hi hnames

theorem follow_singleton (hd : d.at? way = some (directory entries)) (hc : (child? name entries).isSome)
    (hne : name ≠ "") (hdots : ¬(name = "." ∨ name = "..")) (hs : ¬name.utf8ByteSize > maxName) :
    d.follow way [name] = .ok (way ++ [name]) := by
  obtain ⟨e, he⟩ := Option.isSome_iff_exists.1 hc
  have hidle : ¬(name = "" ∨ name = ".") := by
    rintro (h | h)
    · exact hne h
    · exact hdots (.inl h)
  have hup : name ≠ ".." := fun h => hdots (.inr h)
  rw [follow, hd]
  dsimp only
  rw [if_neg hidle, if_neg hup, if_neg hs, he]
  rfl

section Make

variable {home path : String} {made : Disk}

-- There is a directory at the end of a path.
def HasDirectory (d : Disk) (home path : String) (way : List String) : Prop :=
  d.locate home path = .ok way ∧ ∃ entries, d.at? way = some (directory entries)

theorem isDirectory_iff : d.isDirectory home path = true ↔ ∃ way, d.HasDirectory home path way := by
  rw [isDirectory]
  cases hl : d.locate home path
  case error e => simp [HasDirectory, hl, Except.toOption]
  case ok way =>
    simp only [HasDirectory, hl, Except.toOption, Option.bind_some]
    constructor
    case mp =>
      intro h
      split at h
      case h_1 entries he => exact ⟨way, rfl, entries, he⟩
      case h_2 => cases h
    case mpr =>
      rintro ⟨_, ⟨⟩, entries, he⟩
      rw [he]

-- Where a directory has been made, and what it is called.
structure Makes (d : Disk) (home path : String) (made : Disk) (before : List String) (last : String)
    (way : List String) (entries : List (String × Disk)) : Prop where
  path_ok   : checkPath path = .ok ()
  names_eq  : (names home path).reverse.dropWhile String.isEmpty = last :: before
  follow_eq : d.follow [] before.reverse = .ok way
  at_eq     : d.at? way = some (directory entries)
  no_dots   : ¬(last = "." ∨ last = "..")
  fits      : ¬last.utf8ByteSize > maxName
  absent    : child? last entries = none
  made_eq   : made = d.putAt (way ++ [last]) (directory [])

theorem makeDirectory_eq_ok (h : d.makeDirectory home path = .ok made) :
    ∃ before last way entries, Makes d home path made before last way entries := by
  rw [makeDirectory] at h
  cases hc : checkPath path
  case error e => rw [hc] at h; cases h
  case ok =>
    cases hn : (names home path).reverse.dropWhile String.isEmpty
    case nil => simp only [hc, hn] at h; cases h
    case cons last before =>
      cases hf : d.follow [] before.reverse
      case error e => simp only [hc, hn, hf] at h; cases h
      case ok way =>
        simp only [hc, hn, hf, bind, Except.bind] at h
        split at h
        case h_2 => cases h
        case h_3 => cases h
        case h_1 entries ha =>
          split at h
          case isTrue => cases h
          case isFalse hdots =>
            split at h
            case isTrue => cases h
            case isFalse hfits =>
              split at h
              case isTrue => cases h
              case isFalse habsent =>
                refine ⟨before, last, way, entries, ⟨hc, hn, hf, ha, hdots, hfits, ?_, ?_⟩⟩
                · simpa using habsent
                · exact (Except.ok.inj h).symm

-- A path's names are those that count, and then empty ones.
theorem Makes.names_append {before way : List String} {last : String}
    (h : Makes d home path made before last way entries) :
    ∃ idle : List String, names home path = before.reverse ++ ([last] ++ idle) ∧
      (∀ name ∈ idle, name.isEmpty) ∧ last ≠ "" := by
  have hn := h.names_eq
  generalize names home path = path at hn
  refine ⟨(path.reverse.takeWhile String.isEmpty).reverse, ?names, ?idle, ?last⟩
  case names =>
    have hs := congrArg List.reverse
      (List.takeWhile_append_dropWhile (p := String.isEmpty) (l := path.reverse))
    rw [hn, List.reverse_append, List.reverse_cons, List.reverse_reverse, List.append_assoc] at hs
    exact hs.symm
  case idle =>
    intro name hm
    exact List.mem_takeWhile_imp (List.mem_reverse.1 hm)
  case last =>
    rintro rfl
    have hl := List.head?_dropWhile_not String.isEmpty path.reverse
    rw [hn] at hl
    cases hl

theorem makeDirectory_hasDirectory (h : d.makeDirectory home path = .ok made) :
    ∃ way, made.HasDirectory home path way := by
  obtain ⟨before, last, way, entries, hm⟩ := makeDirectory_eq_ok h
  obtain ⟨idle, hnames, hidle, hlast⟩ := hm.names_append
  have hnew : ∀ es, d.at? (way ++ [last]) ≠ some (directory es) := by
    rw [at?_append_singleton hm.at_eq, hm.absent]
    exact fun es he => nomatch he
  have hself : made.at? (way ++ [last]) = some (directory []) := by
    rw [hm.made_eq, at?_putAt_self hm.at_eq]
  have hbefore : made.follow [] before.reverse = .ok way := by
    rw [hm.made_eq]
    exact follow_putAt hnew _ hm.follow_eq
  obtain ⟨es, hes, -⟩ := at?_putAt_directory hnew (directory []) hm.at_eq
  rw [← hm.made_eq] at hes
  have hchild : child? last es = some (directory []) := by
    rw [← at?_append_singleton hes, hself]
  have hlastStep : made.follow way [last] = .ok (way ++ [last]) :=
    follow_singleton hes (by rw [hchild]; rfl) hlast hm.no_dots hm.fits
  have hfollow : made.follow [] (names home path) = .ok (way ++ [last]) := by
    rw [hnames, follow_append, hbefore]
    change made.follow way ([last] ++ idle) = _
    rw [follow_append, hlastStep]
    exact follow_of_forall_isEmpty hself hidle
  exact ⟨way ++ [last], locate_eq_ok_iff.2 ⟨hm.path_ok, hfollow⟩, [], hself⟩

theorem unlessDirectory_eq_ok {e : StorageError}
    (h : makeDirectories.unlessDirectory home d path e = .ok ()) :
    ∃ way, d.HasDirectory home path way := by
  unfold makeDirectories.unlessDirectory at h
  split at h
  case isTrue hd => exact isDirectory_iff.1 hd
  case isFalse   => cases h

theorem finish_hasDirectory (h : makeDirectories.finish home d path = (.ok (), made)) :
    ∃ way, made.HasDirectory home path way := by
  unfold makeDirectories.finish at h
  split at h
  case h_1 root hr =>
    cases h
    exact makeDirectory_hasDirectory hr
  case h_2 e he =>
    obtain ⟨hu, rfl⟩ := Prod.mk.inj h
    exact unlessDirectory_eq_ok hu

theorem go_hasDirectory {fuel : Nat} (h : makeDirectories.go home fuel d path = (.ok (), made)) :
    ∃ way, made.HasDirectory home path way := by
  unfold makeDirectories.go at h
  split at h
  case h_1 root hr =>
    cases h
    exact makeDirectory_hasDirectory hr
  case h_2 =>
    split at h
    case h_1 =>
      split at h
      case h_1 => exact finish_hasDirectory h
      case h_2 failed hf => exact absurd h (hf _)
    case h_2 => cases h
  case h_3 e _ _ =>
    obtain ⟨hu, rfl⟩ := Prod.mk.inj h
    exact unlessDirectory_eq_ok hu

-- Where making directories succeeds, there is one at the end of the path.
theorem makeDirectories_hasDirectory (h : d.makeDirectories home path = (.ok (), made)) :
    ∃ way, made.HasDirectory home path way :=
  go_hasDirectory h

end Make

section Append

variable {home directory name text : String}

theorem append_of_error {cause : StorageError} (h : d.locate home directory = .error cause)
    (name text : String) : d.append home directory name text = d := by
  rw [append, h]

-- What is written is a file put at the end of the way, or nothing at all.
theorem append_eq (h : d.locate home directory = .ok way) (name text : String) :
    d.append home directory name text =
      match d.at? (way ++ [name]) with
      | some (.directory _) => d
      | _ => d.putAt (way ++ [name])
          (file ((d.content? (way ++ [name])).getD [] ++ text.toUTF8.toList)) := by
  rw [append, h]
  dsimp only
  cases ha : d.at? (way ++ [name])
  case none => simp [content?, ha]
  case some e => cases e <;> simp [content?, ha, bytes?]

theorem append_cases (h : d.locate home directory = .ok way) (name text : String) :
    d.append home directory name text = d ∨
      (∀ es, d.at? (way ++ [name]) ≠ some (.directory es)) ∧
        d.append home directory name text = d.putAt (way ++ [name])
          (file ((d.content? (way ++ [name])).getD [] ++ text.toUTF8.toList)) := by
  rw [append_eq h]
  split
  case h_1 => exact .inl rfl
  case h_2 hn => exact .inr ⟨hn, rfl⟩

theorem content?_append_of_ne (h : ∀ way, d.locate home directory = .ok way → v ≠ way ++ [name])
    (text : String) : (d.append home directory name text).content? v = d.content? v := by
  cases hl : d.locate home directory
  case error => rw [append_of_error hl]
  case ok way =>
    rcases append_cases hl name text with he | ⟨hn, he⟩
    case inl => rw [he]
    case inr =>
      rw [he]
      exact content?_putAt_of_ne (fun es hes => absurd hes (hn es)) (h way hl) _

theorem locate_append (h : d.locate home directory = .ok way) (name text : String) {path : String}
    {dest : List String} (hp : d.locate home path = .ok dest) :
    (d.append home directory name text).locate home path = .ok dest := by
  rcases append_cases h name text with he | ⟨hn, he⟩
  case inl => rwa [he]
  case inr =>
    rw [he]
    exact locate_putAt hn _ hp

-- Where there is a directory for it, a file grows by what is written to it.
theorem content?_append (h : d.locate home directory = .ok way)
    (hd : d.at? way = some (.directory entries))
    (hn : ∀ es, d.at? (way ++ [name]) ≠ some (.directory es)) (text : String) :
    (d.append home directory name text).content? (way ++ [name]) =
      some ((d.content? (way ++ [name])).getD [] ++ text.toUTF8.toList) := by
  have he : d.append home directory name text = d.putAt (way ++ [name])
      (file ((d.content? (way ++ [name])).getD [] ++ text.toUTF8.toList)) := by
    rw [append_eq h]
    split
    case h_1 es hes => exact absurd hes (hn es)
    case h_2        => rfl
  rw [he]
  simp only [content?, at?_putAt_self hd, Option.bind_some, bytes?]

theorem at?_append_directory (h : d.locate home directory = .ok way) (name text : String)
    (hv : d.at? v = some (.directory entries)) :
    ∃ es, (d.append home directory name text).at? v = some (.directory es) := by
  rcases append_cases h name text with he | ⟨hn, he⟩
  case inl => exact ⟨entries, by rw [he, hv]⟩
  case inr =>
    obtain ⟨es, hes, -⟩ := at?_putAt_directory hn _ hv
    exact ⟨es, by rw [he, hes]⟩

end Append

section Keeps

variable {made made' : Disk} {home path : String}

-- All paths lead to where they did, and all files but those of one name have the content that they
-- had.
structure Keeps (home name : String) (d made : Disk) : Prop where
  locate  : ∀ {path : String} {way : List String},
    d.locate home path = .ok way → made.locate home path = .ok way
  content : ∀ {way : List String} {bytes : List UInt8}, way.getLast? ≠ some name →
    d.content? way = some bytes → made.content? way = some bytes

theorem Keeps.refl (home name : String) (d : Disk) : Keeps home name d d where
  locate hl    := hl
  content _ hc := hc

theorem Keeps.trans (h : Keeps home name d made) (h' : Keeps home name made made') : Keeps home name d made' where
  locate hl     := h'.locate (h.locate hl)
  content hn hc := h'.content hn (h.content hn hc)

-- What is put where nothing is changes no file.
theorem content?_putAt_of_none (h : d.at? way = none) (new : Disk) {bytes : List UInt8}
    (hv : d.content? v = some bytes) : (d.putAt way new).content? v = some bytes := by
  induction way generalizing d v
  case nil => cases h
  case cons n way hi =>
    cases d
    case file => exact hv
    case directory es =>
      cases v
      case nil => cases hv
      case cons m v =>
        rw [content?_directory_cons] at hv
        obtain ⟨c, hc, hcv⟩ := Option.bind_eq_some_iff.1 hv
        rw [putAt, content?_directory_cons, child?_putEntry]
        split
        case isFalse => rw [hc, Option.bind_some, hcv]
        case isTrue hn =>
          subst hn
          rw [at?, hc, Option.bind_some] at h
          rw [hc, Option.getD_some, Option.bind_some, hi h hcv]

theorem makeDirectory_keeps (h : d.makeDirectory home path = .ok made) : Keeps home name d made := by
  obtain ⟨before, last, way, entries, hm⟩ := makeDirectory_eq_ok h
  have hnew : d.at? (way ++ [last]) = none := by
    rw [at?_append_singleton hm.at_eq, hm.absent]
  rw [hm.made_eq]
  exact {
    locate  := locate_putAt (by simp [hnew]) _
    content := fun _ hc => content?_putAt_of_none hnew _ hc }

theorem finish_keeps (d : Disk) (path : String) :
    Keeps home name d (makeDirectories.finish home d path).2 := by
  unfold makeDirectories.finish
  split
  case h_1 hr => exact makeDirectory_keeps hr
  case h_2    => exact .refl home name d

theorem go_keeps (fuel : Nat) (d : Disk) (path : String) :
    Keeps home name d (makeDirectories.go home fuel d path).2 := by
  induction fuel generalizing path
  case zero =>
    unfold makeDirectories.go
    split
    case h_1 hr => exact makeDirectory_keeps hr
    case h_2    => exact .refl home name d
    case h_3    => exact .refl home name d
  case succ fuel hi =>
    unfold makeDirectories.go
    split
    case h_1 hr => exact makeDirectory_keeps hr
    case h_3    => exact .refl home name d
    case h_2 =>
      split
      case h_2 => exact .refl home name d
      case h_1 parent he hp =>
        cases he
        have hk := hi parent
        split
        case h_1 root hr =>
          rw [hr] at hk
          exact hk.trans (finish_keeps root path)
        case h_2 => exact hk

-- Directories are made beside the files, also where some of them cannot be made.
theorem makeDirectories_keeps (d : Disk) (home path : String) :
    Keeps home name d (d.makeDirectories home path).2 :=
  go_keeps path.length d path

theorem append_keeps (d : Disk) (home directory text : String) :
    Keeps home name d (d.append home directory name text) := by
  cases hl : d.locate home directory
  case error =>
    rw [append_of_error hl]
    exact .refl home name d
  case ok way =>
    constructor
    case locate => exact locate_append hl name text
    case content =>
      intro v bytes hn hc
      rw [← hc]
      apply content?_append_of_ne
      rintro way' - rfl
      exact hn (by simp)

-- A file is read from its bytes.
theorem read_eq {bytes : List UInt8} (hl : d.locate home path = .ok way)
    (hc : d.content? way = some bytes) :
    d.read home path =
      match String.fromUTF8? ⟨bytes.toArray⟩ with
      | some text => .ok text
      | none      => .error .notUtf8 := by
  obtain ⟨e, he, hb⟩ := Option.bind_eq_some_iff.1 hc
  cases e
  case directory => cases hb
  case file content =>
    cases hb
    rw [read, hl]
    dsimp only [bind, Except.bind]
    rw [he]
    rfl

theorem fromUTF8?_eq_some_iff {content : List UInt8} {text : String} :
    String.fromUTF8? ⟨content.toArray⟩ = some text ↔ content = text.toUTF8.toList := by
  rw [Text.fromUTF8?_eq_some_iff, Text.byteArray_toList]
  constructor
  case mp  => intro h; rw [← h]
  case mpr => rintro rfl; rfl

-- What is read of a file is the text of which the file has the bytes.
theorem read_eq_ok_iff {text : String} : d.read home path = .ok text ↔
    ∃ way, d.locate home path = .ok way ∧ d.content? way = some text.toUTF8.toList := by
  constructor
  case mp =>
    intro h
    obtain ⟨way, hl, h⟩ := bind_eq_ok_iff.1 h
    split at h
    case h_1 content hf =>
      split at h <;> cases h
      case h_1 ht =>
        rw [← fromUTF8?_eq_some_iff.1 ht]
        exact ⟨way, hl, by rw [content?, hf]; rfl⟩
    all_goals cases h
  case mpr =>
    rintro ⟨way, hl, hc⟩
    rw [read_eq hl hc, fromUTF8?_eq_some_iff.2 rfl]

theorem Keeps.read_eq {bytes : List UInt8} (h : Keeps home name d made)
    (hl : d.locate home path = .ok way) (hc : d.content? way = some bytes)
    (hn : way.getLast? ≠ some name) : made.read home path = d.read home path := by
  rw [Disk.read_eq hl hc, Disk.read_eq (h.locate hl) (h.content hn hc)]

end Keeps
end ChainHost.Disk
