import ChainHost.Proofs.Json.Depth
import ChainHost.Proofs.Payload

namespace ChainHost.Payload

open Json (Node Tree Value TooDeep)

-- The document of a payload with the value before the schema.
def taggedSwapped (p : Payload) : String :=
  (Value.object [("value", p.toValue), ("schema", .string p.schema.name)]).text

section Reading

variable {node : Node} {s : Schema} {t : Tree} {v : Value} {p : Payload}

-- A key that may stand where it does has its member read into what is known so far.
theorem ofMembers_member {name : String} (hk : name = "schema" ∨ name = "value") {part : Part}
    (hr : part.repeated? name = none) (room : ℕ) (span : Json.Span) (colon after : ℕ) (value : Node)
    (rest : Json.Members) :
    ofMembers room (.member (.string span (.ok name)) colon value after rest) part =
      (readPart room name value (afterValue after rest) part >>= ofMembers room rest) := by
  simp only [ofMembers, Node.key, bind, Except.bind, hr, if_pos hk]

theorem readPart_schema (hs : Json.schema room node = .ok s) (stop : ℕ) :
    readPart room "schema" node stop .none = .ok (.schema s) := by
  change (Json.schema room node >>= _) = _
  rw [hs]
  rfl

theorem readPart_schema_last (hs : Json.schema room node = .ok s) (stop : ℕ) (v : Value) :
    readPart room "schema" node stop (.value v) = (ofValue s v stop).map .whole := by
  change (Json.schema room node >>= _) = _
  rw [hs]
  change (ofValue s v stop >>= _) = _
  cases ofValue s v stop <;> rfl

-- After the schema the value is read as what it is.
theorem decode_schema_first
    (h : node.Holds (.object [("schema", .string s.name), ("value", t)])) :
    ∃ value : Node, value.Holds t ∧
      ∀ room, taggedDecoder (room + 1) node = ofNode s room value := by
  cases h
  case object h =>
    cases h
    case member hs h =>
      cases h
      case member value _ _ _ _ hv h =>
        cases h
        refine ⟨value, hv, fun room => ?_⟩
        have hs := (Json.schema_makes room hs).2 (.name room s)
        rw [taggedDecoder, ofMembers_member (.inl rfl) rfl, readPart_schema hs]
        change ofMembers room _ (.schema s) = _
        rw [ofMembers_member (.inr rfl) rfl]
        change (ofNode s room value >>= _) >>= _ = _
        cases ofNode s room value <;> rfl

-- Before the schema any value is read, and only then whether it fits.
theorem decode_value_first
    (h : node.Holds (.object [("value", t), ("schema", .string s.name)])) :
    ∃ (value : Node) (offset : ℕ), value.Holds t ∧
      ∀ room, taggedDecoder (room + 1) node =
        (Json.anyValue room value >>= (ofValue s · offset)) := by
  cases h
  case object h =>
    cases h
    case member value _ _ _ _ hv h =>
      cases h
      case member _ _ _ _ after hs h =>
        cases h
        case ended stop =>
          refine ⟨value, afterValue after (.ended stop (some '}')), hv, fun room => ?_⟩
          have hs := (Json.schema_makes room hs).2 (.name room s)
          rw [taggedDecoder, ofMembers_member (.inr rfl) rfl]
          change (Json.anyValue room value >>= _) >>= _ = _
          cases Json.anyValue room value
          case error => rfl
          case ok v =>
            change ofMembers room _ (.value v) = ofValue s v _
            rw [ofMembers_member (.inl rfl) rfl, readPart_schema_last hs]
            cases ofValue s v _ <;> rfl

theorem ofText_eq {text : String} (h : t.HasText text) :
    ∃ node : Node, node.Holds t ∧ ofText text = taggedDecoder Json.maxOpen node := by
  obtain ⟨node, offset, hd, hn⟩ := h.ofText_eq
  refine ⟨node, hn, ?_⟩
  rw [ofText, Json.decodeText, hd, Json.Document.decode]
  cases taggedDecoder Json.maxOpen node <;> rfl

end Reading

section Documents

variable {s : Schema} {raw : String} {p : Payload} {room : ℕ}

-- The trees of the two documents of a payload.
theorem hasText_tagged (p : Payload) :
    (Tree.object [("schema", .string p.schema.name), ("value", p.toValue.tree)]).HasText p.tagged :=
  Value.hasText_text _

theorem hasText_taggedSwapped (p : Payload) :
    (Tree.object [("value", p.toValue.tree), ("schema", .string p.schema.name)]).HasText
      p.taggedSwapped :=
  Value.hasText_text _

theorem ofNode_eq {node : Node} (h : node.Holds p.toValue.tree)
    (hd : p.toValue.tree.Denotes room p.toValue) : ofNode p.schema room node = .ok p := by
  cases p
  case text t =>
    have hs := (Json.string_makes room h).2 rfl
    simp only [schema, ofNode, hs, Except.map]
  case json v =>
    have hv := (Json.anyValue_makes room h).2 hd
    simp only [schema, ofNode, hv, Except.map, toValue]

theorem ofValue_toValue (p : Payload) (offset : ℕ) :
    ofValue p.schema p.toValue offset = .ok p := by
  cases p <;> rfl

theorem decode_json_of_ofText {v : Value} (h : Value.ofText raw = .ok v) :
    decode .json raw = .ok (.json v) := by
  simp only [decode, h]

theorem readable_of_decode (h : decode s raw = .ok p) : p.toValue.Readable Json.maxOpen := by
  cases s
  case string =>
    cases h
    trivial
  case json =>
    simp only [decode] at h
    split at h <;> cases h
    case h_1 hv => exact Value.readable_of_ofText hv

-- The members of a document are read where one container is open already.
theorem ofText_tagged (hr : p.toValue.Readable Json.maxOpen) (hs : ∀ n ∈ p.numbers, n.Settled)
    (hd : p.toValue.depth < Json.maxOpen) :
    ofText p.tagged = .ok p ∧ ofText p.taggedSwapped = .ok p := by
  have ht := Value.denotes_tree_of_depth hr hs (Nat.lt_succ_iff.1 hd)
  obtain ⟨node, hnode, he⟩ := ofText_eq p.hasText_tagged
  obtain ⟨node', hnode', he'⟩ := ofText_eq p.hasText_taggedSwapped
  obtain ⟨value, hv, hd⟩ := decode_schema_first hnode
  obtain ⟨value', offset, hv', hd'⟩ := decode_value_first hnode'
  rw [he, he', Json.maxOpen, hd, hd', (Json.anyValue_makes 126 hv').2 ht]
  exact ⟨ofNode_eq hv ht, ofValue_toValue p offset⟩

theorem tooDeep_tagged (hr : p.toValue.Readable Json.maxOpen) (hs : ∀ n ∈ p.numbers, n.Settled)
    (hd : p.toValue.depth = Json.maxOpen) :
    TooDeep (ofText p.tagged) ∧ TooDeep (ofText p.taggedSwapped) := by
  have hlt : 126 < p.toValue.depth := hd ▸ Nat.lt_succ_self 126
  obtain ⟨node, hnode, he⟩ := ofText_eq p.hasText_tagged
  obtain ⟨node', hnode', he'⟩ := ofText_eq p.hasText_taggedSwapped
  obtain ⟨value, hv, hd⟩ := decode_schema_first hnode
  obtain ⟨value', offset, hv', hd'⟩ := decode_value_first hnode'
  rw [he, he', Json.maxOpen, hd, hd']
  cases p
  case text => cases hlt
  case json => exact ⟨(Value.tooDeep hr hs hlt hv).map _, (Value.tooDeep hr hs hlt hv').bind _⟩

-- The document of a payload is read as the payload in both orders of its members if containers stand
-- less deep in the payload than they may at all, and otherwise it is refused as too deep in both.
theorem tagged_is_read_unless_too_deep (h : decode s raw = .ok p)
    (hn : ∀ n ∈ p.numbers, n.IsInteger) :
    (Tree.object [("schema", .string s.name), ("value", p.toValue.tree)]).HasText p.tagged ∧
      (Tree.object [("value", p.toValue.tree), ("schema", .string s.name)]).HasText
        p.taggedSwapped ∧
      p.toValue.depth ≤ Json.maxOpen ∧
      (p.toValue.depth < Json.maxOpen →
        ofText p.tagged = .ok p ∧ ofText p.taggedSwapped = .ok p) ∧
      (p.toValue.depth = Json.maxOpen →
        TooDeep (ofText p.tagged) ∧ TooDeep (ofText p.taggedSwapped)) := by
  obtain rfl := schema_of_decode h
  have hr := readable_of_decode h
  have hs (n : Json.Number) (hm : n ∈ p.numbers) : n.Settled :=
    Json.Number.settled_of_isInteger (hn n hm) (hr.fits hm)
  exact ⟨p.hasText_tagged, p.hasText_taggedSwapped, hr.depth_le, ofText_tagged hr hs,
    tooDeep_tagged hr hs⟩

theorem tagged_is_read_sorted :
    ∃ p, decode .json "\x7b\"b\":[1], \"a\":\"\"\x7d" = .ok p ∧
      p.tagged = "\x7b\"schema\":\"json\",\"value\":\x7b\"a\":\"\",\"b\":[1]\x7d\x7d" ∧
      ofText p.tagged = .ok p ∧ ofText p.taggedSwapped = .ok p := by
  have h : decode .json "\x7b\"b\":[1], \"a\":\"\"\x7d" =
      .ok (.json (.object [("a", .string ""), ("b", .array [.number (.integer 1)])])) := by cbv
  refine ⟨_, h, by decide +kernel, (tagged_is_read_unless_too_deep h ?_).2.2.2.1 (by decide)⟩
  simp [numbers, toValue, Value.numbers, Value.numbersOfItems, Value.numbersOfMembers,
    Json.Number.IsInteger]

end Documents

section Deepest

variable {n room : ℕ}

-- Arrays inside one another.
def nested : ℕ → Value
  | 0     => .array []
  | n + 1 => .array [nested n]

theorem depth_nested (n : ℕ) : (nested n).depth = n + 1 := by
  induction n
  case zero      => rfl
  case succ n hi => simp [nested, Value.depth, Value.depthOfItems, hi]

theorem numbers_nested (n : ℕ) : (nested n).numbers = [] := by
  induction n
  case zero      => rfl
  case succ n hi => simp [nested, Value.numbers, Value.numbersOfItems, hi]

theorem readable_nested (h : n < room) : (nested n).Readable room := by
  induction n generalizing room
  all_goals
    cases room
    case zero => exact absurd h (Nat.not_lt_zero _)
  case zero.succ => simp [nested, Value.Readable]
  case succ.succ hi _ => simpa [nested, Value.Readable] using hi (Nat.lt_of_succ_lt_succ h)

theorem write_nested (n : ℕ) :
    (nested n).write = List.replicate (n + 1) '[' ++ List.replicate (n + 1) ']' := by
  induction n
  case zero => rfl
  case succ n hi =>
    rw [nested, Value.write, hi, Value.writeItems, @List.replicate_succ' (n + 1) Char ']',
      @List.replicate_succ Char '[' (n + 1), List.append_assoc, List.cons_append]

-- As many arrays inside one another as there may be.
def deepestRaw : String :=
  String.ofList (List.replicate 127 '[' ++ List.replicate 127 ']')

theorem deepest_is_not_read_back :
    ∃ p, decode .json deepestRaw = .ok p ∧ p.numbers = [] ∧
      (∀ q, ofText p.tagged ≠ .ok q) ∧ ∀ q, ofText p.taggedSwapped ≠ .ok q := by
  have hr : (nested 126).Readable Json.maxOpen := readable_nested (by decide)
  have ht : deepestRaw = (nested 126).text := by rw [Value.text, write_nested]; rfl
  have hv : Value.ofText (nested 126).text = .ok (nested 126) :=
    Value.ofText_text hr (by simp [numbers_nested])
  have hd : decode .json deepestRaw = .ok (.json (nested 126)) :=
    ht ▸ decode_json_of_ofText hv
  have hn : (json (nested 126)).numbers = [] := numbers_nested 126
  obtain ⟨⟨f, hf, -⟩, f', hf', -⟩ :=
    tooDeep_tagged (p := json (nested 126)) hr (by simp [hn]) (depth_nested 126)
  exact ⟨_, hd, hn, by simp [hf], by simp [hf']⟩

end Deepest

end ChainHost.Payload
