import ChainHost.Proofs.Text.Trim
import ChainHost.Proofs.Text.Utf8
import ChainHost.Logging.Settings

namespace ChainHost

-- Two texts are the same up to the case of their ASCII letters.
def Text.EqIgnoringCase (s t : String) : Prop :=
  s.toList.map Char.toLower = t.toList.map Char.toLower

namespace Logging

open Text

namespace Level

inductive Named : String → Level → Prop
  | error   : Named "error" .error
  | warn    : Named "warn" .warn
  | warning : Named "warning" .warn
  | info    : Named "info" .info
  | debug   : Named "debug" .debug
  | trace   : Named "trace" .trace

def Denoted (text : String) (l : Level) : Prop :=
  ∃ name, Named name l ∧ EqIgnoringCase text name

variable {text name : String} {l : Level}

theorem named_lowerName (l : Level) : Named l.lowerName l := by
  cases l <;> constructor

theorem denoted_lowerName (l : Level) : Denoted l.lowerName l :=
  ⟨_, named_lowerName l, rfl⟩

theorem denoted_name (l : Level) : Denoted l.name l :=
  ⟨_, named_lowerName l, by unfold EqIgnoringCase; cases l <;> decide +kernel⟩

theorem Named.map_toLower (h : Named name l) : name.toList.map Char.toLower = name.toList := by
  cases h <;> rfl

theorem denoted_iff : Denoted text l ↔ Named (text.map Char.toLower) l := by
  have hlower : (text.map Char.toLower).toList = text.toList.map Char.toLower :=
    String.toList_map
  constructor
  case mp =>
    rintro ⟨name, hn, ht : _ = _⟩
    rwa [String.toList_inj.1 (hlower.trans (ht.trans hn.map_toLower))]
  case mpr =>
    intro h
    refine ⟨_, h, ?_⟩
    rw [EqIgnoringCase, h.map_toLower, hlower]

theorem ofName?_eq_some_iff : ofName? text = some l ↔ Denoted (trim text) l := by
  rw [denoted_iff, ofName?]
  generalize (trim text).map Char.toLower = name
  constructor
  case mp =>
    intro h
    split at h
    case isTrue hw => cases h; rw [hw]; exact .warning
    case isFalse =>
      have hl := List.find?_some h
      rw [← eq_of_beq hl]
      exact named_lowerName l
  case mpr =>
    intro h
    cases h <;> rfl

end Level

namespace Settings

open Level (Denoted)

-- What is made of the texts of a level and of a directory, of which the level is looked at first.
inductive Made (level directory : String) : Except SettingsError Settings → Prop
  | unsupportedLevel {name} (hl : Trims level name) (hn : ∀ l, ¬Denoted name l) :
    Made level directory (.error (.unsupportedLevel name))
  | emptyDirectory {name l} (hl : Trims level name) (hn : Denoted name l)
      (hd : Trims directory "") :
    Made level directory (.error .emptyDirectory)
  | relativeDirectory {name l path} (hl : Trims level name) (hn : Denoted name l)
      (hd : Trims directory path) (he : path ≠ "") (hp : path.toList.head? ≠ some '/') :
    Made level directory (.error (.relativeDirectory path))
  | made {name l path} (hl : Trims level name) (hn : Denoted name l)
      (hd : Trims directory path) (hp : path.toList.head? = some '/') :
    Made level directory (.ok ⟨l, path⟩)

-- What the variables of the environment come to. Bytes that no text has count as unset.
inductive Configured (directory level : Option ByteArray) :
    Except SettingsError (Option Settings) → Prop
  | off (hd : ∀ d : String, directory ≠ some d.toUTF8) : Configured directory level (.ok none)
  | both {d l : String} (hd : directory = some d.toUTF8) (hl : level = some l.toUTF8) :
    Configured directory level ((ofTexts l d).map some)
  | directoryOnly {d : String} (hd : directory = some d.toUTF8)
      (hl : ∀ l : String, level ≠ some l.toUTF8) :
    Configured directory level ((ofTexts Level.default.name d).map some)

variable {level directory name path : String} {l : Level} {s : Settings}
  {r : Except SettingsError Settings}

theorem readLevel_of_denoted (hl : Trims level name) (hn : Denoted name l) :
    readLevel level = .ok l := by
  rw [readLevel, Level.ofName?_eq_some_iff.2 (trims_iff.1 hl ▸ hn)]

theorem readLevel_of_not_denoted (hl : Trims level name) (hn : ∀ l, ¬Denoted name l) :
    readLevel level = .error (.unsupportedLevel name) := by
  have hnone : Level.ofName? level = none :=
    Option.eq_none_iff_forall_ne_some.2 fun l h =>
      hn l (trims_iff.1 hl ▸ Level.ofName?_eq_some_iff.1 h)
  rw [readLevel, hnone, trims_iff.1 hl]

theorem readDirectory_of_empty (hd : Trims directory "") :
    readDirectory directory = .error .emptyDirectory := by
  rw [readDirectory, trims_iff.1 hd]
  rfl

theorem readDirectory_of_relative (hd : Trims directory path) (he : path ≠ "")
    (hp : path.toList.head? ≠ some '/') :
    readDirectory directory = .error (.relativeDirectory path) := by
  have ha : ¬Path.isAbsolute path = true := mt beq_iff_eq.1 hp
  simp only [readDirectory, trims_iff.1 hd]
  rw [if_neg (mt String.isEmpty_iff.1 he), if_neg ha]

theorem readDirectory_of_absolute (hd : Trims directory path)
    (hp : path.toList.head? = some '/') : readDirectory directory = .ok path := by
  have ha : Path.isAbsolute path = true := beq_iff_eq.2 hp
  have he : path ≠ "" := by rintro rfl; cases hp
  simp only [readDirectory, trims_iff.1 hd]
  rw [if_neg (mt String.isEmpty_iff.1 he), if_pos ha]

theorem exists_made (level directory : String) : ∃ r, Made level directory r := by
  have hl := trims_trim level
  have hd := trims_trim directory
  by_cases hn : ∃ l, Denoted (trim level) l
  case neg => exact ⟨_, .unsupportedLevel hl (not_exists.1 hn)⟩
  case pos =>
    obtain ⟨l, hn⟩ := hn
    by_cases he : trim directory = ""
    case pos => exact ⟨_, .emptyDirectory hl hn (he ▸ hd)⟩
    case neg =>
      by_cases hp : (trim directory).toList.head? = some '/'
      case neg => exact ⟨_, .relativeDirectory hl hn hd he hp⟩
      case pos => exact ⟨_, .made hl hn hd hp⟩

theorem Made.ofTexts_eq (h : Made level directory r) : ofTexts level directory = r := by
  rw [ofTexts]
  cases h
  case unsupportedLevel hl hn => rw [readLevel_of_not_denoted hl hn]; rfl
  all_goals rw [readLevel_of_denoted ‹_› ‹_›]
  case emptyDirectory hd          => rw [readDirectory_of_empty hd]; rfl
  case relativeDirectory hd he hp => rw [readDirectory_of_relative hd he hp]; rfl
  case made hd hp                 => rw [readDirectory_of_absolute hd hp]; rfl

theorem ofTexts_eq_iff : ofTexts level directory = r ↔ Made level directory r := by
  constructor
  case mpr => exact Made.ofTexts_eq
  case mp =>
    rintro rfl
    obtain ⟨r, h⟩ := exists_made level directory
    rwa [h.ofTexts_eq]

theorem ofTexts_off (hl : Trims level name) (hn : EqIgnoringCase name "off") (directory : String) :
    ofTexts level directory = .error (.unsupportedLevel name) := by
  refine Made.ofTexts_eq (.unsupportedLevel hl ?_)
  rintro l ⟨other, ho, hn'⟩
  have : "off".toList.map Char.toLower = other.toList := by
    rw [← ho.map_toLower, ← hn']
    exact hn.symm
  cases ho <;> cases this

theorem trims_name (l : Level) : Trims l.name l.name :=
  trims_iff.2 (by cases l <;> decide +kernel)

theorem trims_lowerName (l : Level) : Trims l.lowerName l.lowerName :=
  trims_iff.2 (by cases l <;> decide +kernel)

-- A name of the level of settings makes the same settings again with their directory.
theorem Made.again (h : Made level directory (.ok s)) (hl : Trims name name)
    (hn : Denoted name s.level) : ofTexts name s.directory = .ok s := by
  cases h
  case made hd hp => exact Made.ofTexts_eq (.made hl hn hd.self hp)

section Environment

variable {directory level : Option ByteArray} {r : Except SettingsError (Option Settings)}

-- The text that is read of a variable of the environment.
theorem bind_fromUTF8?_eq_some_iff {bytes : Option ByteArray} {text : String} :
    bytes.bind String.fromUTF8? = some text ↔ bytes = some text.toUTF8 := by
  cases bytes <;> simp [fromUTF8?_eq_some_iff]

theorem bind_fromUTF8?_eq_none {bytes : Option ByteArray}
    (h : ∀ text : String, bytes ≠ some text.toUTF8) : bytes.bind String.fromUTF8? = none :=
  Option.eq_none_iff_forall_ne_some.2 fun text => mt bind_fromUTF8?_eq_some_iff.1 (h text)

theorem exists_configured (directory level : Option ByteArray) :
    ∃ r, Configured directory level r := by
  by_cases hd : ∃ d : String, directory = some d.toUTF8
  case neg => exact ⟨_, .off (not_exists.1 hd)⟩
  case pos =>
    obtain ⟨d, hd⟩ := hd
    by_cases hl : ∃ l : String, level = some l.toUTF8
    case neg => exact ⟨_, .directoryOnly hd (not_exists.1 hl)⟩
    case pos =>
      obtain ⟨l, hl⟩ := hl
      exact ⟨_, .both hd hl⟩

theorem Configured.ofEnvironment_eq (h : Configured directory level r) :
    ofEnvironment (.ofBytes directory level) = r := by
  rw [ofEnvironment, Environment.ofBytes]
  dsimp only
  cases h
  case off hd => rw [bind_fromUTF8?_eq_none hd]
  case both d l hd hl =>
    rw [bind_fromUTF8?_eq_some_iff.2 hd, bind_fromUTF8?_eq_some_iff.2 hl]
    dsimp only
    rw [ofTexts]
    cases readLevel l
    case error => rfl
    case ok    => cases readDirectory d <;> rfl
  case directoryOnly d hd hl =>
    rw [bind_fromUTF8?_eq_some_iff.2 hd, bind_fromUTF8?_eq_none hl]
    dsimp only
    rw [ofTexts, readLevel_of_denoted (trims_name _) (Level.denoted_name _)]
    cases readDirectory d <;> rfl

theorem ofEnvironment_eq_iff :
    ofEnvironment (.ofBytes directory level) = r ↔ Configured directory level r := by
  constructor
  case mpr => exact Configured.ofEnvironment_eq
  case mp =>
    rintro rfl
    obtain ⟨r, h⟩ := exists_configured directory level
    rwa [h.ofEnvironment_eq]

end Environment

-- Settings from texts are in a normal form, of which no level is off, and those from the environment
-- are the settings from the texts in it.
theorem texts_and_environment_agree :
    (∀ level directory r, ofTexts level directory = r ↔ Made level directory r) ∧
    (∀ level directory s, ofTexts level directory = .ok s →
      s.level.name ≠ "OFF" ∧ s.level.admits .error = true ∧
      ofTexts s.level.name s.directory = .ok s ∧ ofTexts s.level.lowerName s.directory = .ok s) ∧
    (∀ level name, Trims level name → EqIgnoringCase name "off" →
      ∀ directory, ofTexts level directory = .error (.unsupportedLevel name)) ∧
    ∀ directory level r,
      ofEnvironment (.ofBytes directory level) = r ↔ Configured directory level r := by
  refine ⟨fun _ _ _ => ofTexts_eq_iff, fun level directory s h => ?_, fun _ _ => ofTexts_off,
    fun _ _ _ => ofEnvironment_eq_iff⟩
  have hmade := ofTexts_eq_iff.1 h
  have hoff : s.level.name ≠ "OFF" ∧ s.level.admits .error = true := by cases s.level <;> decide
  exact ⟨hoff.1, hoff.2, hmade.again (trims_name _) (Level.denoted_name _),
    hmade.again (trims_lowerName _) (Level.denoted_lowerName _)⟩

theorem texts_and_environment_agree_on_warnings :
    ofTexts " WARNING " "/logs\n" = .ok ⟨.warn, "/logs"⟩ ∧
    ofTexts "WARN" "/logs" = .ok ⟨.warn, "/logs"⟩ ∧
    ofTexts "\tOff" "logs" = .error (.unsupportedLevel "Off") ∧
    ofEnvironment (.ofBytes (some "/logs".toUTF8) none) = .ok (some ⟨.debug, "/logs"⟩) := by
  obtain ⟨-, hagain, hoff, henv⟩ := texts_and_environment_agree
  have hwarn : ofTexts " WARNING " "/logs\n" = .ok ⟨.warn, "/logs"⟩ := by decide +kernel
  have hdebug : ofTexts Level.default.name "/logs" = .ok ⟨.debug, "/logs"⟩ := by decide +kernel
  obtain ⟨-, -, hname, -⟩ := hagain _ _ _ hwarn
  have hinner : Trims "\tOff" "Off" := trims_iff.2 (by decide +kernel)
  have hcase : EqIgnoringCase "Off" "off" := by unfold EqIgnoringCase; decide +kernel
  refine ⟨hwarn, hname, hoff _ _ hinner hcase _, ?_⟩
  have hunset (l : String) : (none : Option ByteArray) ≠ some l.toUTF8 :=
    (Option.some_ne_none _).symm
  rw [(henv _ _ _).2 (.directoryOnly rfl hunset), hdebug]
  rfl

end Settings
end Logging
end ChainHost
