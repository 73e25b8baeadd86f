import ChainHost.CommandLine
import ChainHost.Proofs.Declared.Calls
import ChainHost.Proofs.Declared.Validation
import ChainHost.Proofs.Nucleus.Dispatch

namespace ChainHost.CommandLine

variable {π : Type} [PatternLanguage π]

-- How a nucleus answers the arguments after the manifest's path.
inductive Answers (n : Declared π) : List String → Except RunError (List String) → Prop
  | listed : Answers n [] (.ok (("nucleus=" ++ Declared.typeName) ::
      (Nucleus.interfaces n).map fun i => "interface=" ++ i.name ++ " schema=" ++ i.schema.name))
  | unsupported {entry format value : String} (format_ne : ∀ s : Schema, format ≠ s.name) :
      Answers n ["--validate", entry, format, value] (.error (.unsupportedSchema format))
  | undecodable {entry value : String} {s : Schema} {e : Failure}
      (decode : Payload.decode s value = .error e) :
      Answers n ["--validate", entry, s.name, value] (.error (.nucleus e))
  | invalid {entry value : String} {s : Schema} {p : Payload} {e : Failure}
      (decode : Payload.decode s value = .ok p) (validate : n.validate ⟨entry, s⟩ p = .error e) :
      Answers n ["--validate", entry, s.name, value] (.error (.nucleus e))
  | valid {entry value : String} {s : Schema} {p : Payload}
      (decode : Payload.decode s value = .ok p) (validate : n.validate ⟨entry, s⟩ p = .ok ()) :
      Answers n ["--validate", entry, s.name, value]
        (.ok ["valid entry=" ++ entry ++ " schema=" ++ s.name])
  | unusable {rest : List String} (count : rest.length ≠ 3) :
      Answers n ("--validate" :: rest) (.error .unusable)
  -- What comes after the params is ignored, and params that are not there are the empty text.
  | failed {function : String} {rest : List String} {e : Failure} (name : function ≠ "--validate")
      (call : (Nucleus.callEncoded n function (rest.headD "")).1 = .error e) :
      Answers n (function :: rest) (.error (.nucleus e))
  | called {function text : String} {rest : List String} (name : function ≠ "--validate")
      (call : (Nucleus.callEncoded n function (rest.headD "")).1 = .ok text) :
      Answers n (function :: rest) (.ok [text])

section Command

variable {function : String} {rest : List String}

theorem Command.ofArguments_of_length_ne (h : rest.length ≠ 3) :
    ofArguments ("--validate" :: rest) = .unusable := by
  rcases rest with _ | ⟨entry, _ | ⟨format, _ | ⟨value, _ | ⟨more, rest⟩⟩⟩⟩
  case cons.cons.cons.nil => exact absurd rfl h
  all_goals rfl

theorem Command.ofArguments_of_ne (h : function ≠ "--validate") (rest : List String) :
    ofArguments (function :: rest) = .call function (rest.headD "") := by
  unfold ofArguments
  split
  case h_1 he => cases he
  case h_2 he => cases he; exact absurd rfl h
  case h_3 he => cases he; exact absurd rfl h
  case h_4 he => cases he; rfl
  case h_5 he => cases he; rfl

end Command

section Answer

variable {n : Declared π} {rest : List String} {result : Except RunError (List String)}

theorem validateEntry_of_unsupported {format : String} (h : ∀ s : Schema, format ≠ s.name)
    (entry value : String) :
    validateEntry n entry format value = .error (.unsupportedSchema format) := by
  have hf : Schema.ofName? format = none := by
    rw [Option.eq_none_iff_forall_ne_some]
    intro s hs
    exact h s (Schema.ofName?_eq_some_iff.1 hs)
  rw [validateEntry, hf]

theorem validateEntry_of_undecodable {s : Schema} {value : String} {e : Failure}
    (h : Payload.decode s value = .error e) (entry : String) :
    validateEntry n entry s.name value = .error (.nucleus e) := by
  rw [validateEntry, Schema.ofName?_name]
  simp only [h, Except.bind]

theorem validateEntry_of_decode {s : Schema} {value : String} {p : Payload}
    (h : Payload.decode s value = .ok p) (entry : String) :
    validateEntry n entry s.name value =
      match n.validate ⟨entry, s⟩ p with
      | .ok ()   => .ok ("valid entry=" ++ entry ++ " schema=" ++ s.name)
      | .error e => .error (.nucleus e) := by
  rw [validateEntry, Schema.ofName?_name]
  simp only [h, Except.bind]
  rfl

theorem answers_validate (n : Declared π) (entry format value : String) :
    Answers n ["--validate", entry, format, value]
      (answer n (.validate entry format value)) := by
  rw [answer]
  by_cases hf : ∃ s : Schema, format = s.name
  case neg =>
    have hne : ∀ s : Schema, format ≠ s.name := fun s hs => hf ⟨s, hs⟩
    rw [validateEntry_of_unsupported hne]
    exact .unsupported hne
  case pos =>
    obtain ⟨s, rfl⟩ := hf
    cases hd : Payload.decode s value
    case error e =>
      rw [validateEntry_of_undecodable hd]
      exact .undecodable hd
    case ok p =>
      rw [validateEntry_of_decode hd]
      cases hv : n.validate ⟨entry, s⟩ p
      case error e => exact .invalid hd hv
      case ok      => exact .valid hd hv

theorem answers_call (n : Declared π) {function : String} (h : function ≠ "--validate")
    (rest : List String) :
    Answers n (function :: rest) (answer n (.call function (rest.headD ""))) := by
  rw [answer]
  split
  case h_1 hc => exact .called h hc
  case h_2 hc => exact .failed h hc

theorem answers_answer (n : Declared π) (rest : List String) :
    Answers n rest (answer n (.ofArguments rest)) := by
  cases rest
  case nil => exact .listed
  case cons function rest =>
    by_cases hv : function = "--validate"
    case neg =>
      rw [Command.ofArguments_of_ne hv]
      exact answers_call n hv rest
    case pos =>
      subst hv
      by_cases hl : rest.length = 3
      case neg =>
        rw [Command.ofArguments_of_length_ne hl]
        exact .unusable hl
      case pos =>
        obtain ⟨entry, format, value, rfl⟩ := List.length_eq_three.1 hl
        exact answers_validate n entry format value

theorem answer_validate (n : Declared π) (entry format value : String) :
    answer n (.ofArguments ["--validate", entry, format, value]) =
      (validateEntry n entry format value).map fun line => [line] :=
  rfl

theorem Answers.answer_eq (h : Answers n rest result) : answer n (.ofArguments rest) = result := by
  cases h
  case listed => rfl
  case unsupported hf =>
    rw [answer_validate, validateEntry_of_unsupported hf]
    rfl
  case undecodable hd =>
    rw [answer_validate, validateEntry_of_undecodable hd]
    rfl
  case invalid hd he =>
    rw [answer_validate, validateEntry_of_decode hd, he]
    rfl
  case valid hd he =>
    rw [answer_validate, validateEntry_of_decode hd, he]
    rfl
  case unusable hl =>
    rw [Command.ofArguments_of_length_ne hl]
    rfl
  case failed hn hc =>
    rw [Command.ofArguments_of_ne hn]
    simp only [answer, hc]
  case called hn hc =>
    rw [Command.ofArguments_of_ne hn]
    simp only [answer, hc]

theorem answers_iff : Answers n rest result ↔ answer n (.ofArguments rest) = result := by
  constructor
  case mp => exact Answers.answer_eq
  case mpr =>
    rintro rfl
    exact answers_answer n rest

-- A value is read with the schema that it is checked for, and params with the schema of the function.
theorem Answers.ne_schemaMismatch {code : String} (hn : Declared.load code = .ok n)
    (h : Answers n rest result) (target : String) (expected actual : Schema) :
    result ≠ .error (.nucleus (.schemaMismatch target expected actual)) := by
  obtain ⟨s, -, l⟩ := Declared.load_eq_ok hn
  rintro rfl
  cases h
  case undecodable hd => exact nomatch Payload.exists_undecodable hd
  case invalid hd hv  => exact nomatch l.validate_error (Payload.schema_of_decode hd) hv
  case failed hc =>
    rcases l.callEncoded_error hc with he | ⟨m, he⟩ | ⟨m, he⟩
    all_goals cases he

end Answer
end ChainHost.CommandLine
