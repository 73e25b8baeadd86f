import ChainHost.Proofs.Json.Making

namespace ChainHost.Json

-- The fields of a record, which stands as an object or as an array of its fields in their order.
def Tree.fields (names : List String) : Tree → List (String × Tree)
  | .object ms => ms
  | .array ts  => names.zip ts
  | _          => []

theorem map_fst_zip_sublist {keys : List String} {ts : List Tree} :
    ((keys.zip ts).map Prod.fst).Sublist keys := by
  induction keys generalizing ts
  case nil => simp
  case cons key keys hi =>
    cases ts
    case nil       => simp
    case cons t ts => simpa using hi

theorem eq_of_mem_of_nodup {key : String} {t t' : Tree} {ms : List (String × Tree)}
    (hn : (ms.map Prod.fst).Nodup) (h : (key, t) ∈ ms) (h' : (key, t') ∈ ms) : t = t' := by
  have h  := (findMember?_eq_some_iff hn).2 h
  have h' := (findMember?_eq_some_iff hn).2 h'
  exact Option.some.inj (h.symm.trans h')

namespace Layout

variable {σ α β : Type} {l : Layout σ α}

-- A record that stands in a tree: no field stands twice, and there are none but its own.
inductive StandsIn (l : Layout σ α) : Tree → Prop
  | object {ms} (hk : ∀ m ∈ ms, m.1 ∈ l.names) (hn : (ms.map Prod.fst).Nodup) :
    StandsIn l (.object ms)
  | array {ts} (h : ts.length ≤ l.fields.length) : StandsIn l (.array ts)

-- Members that are gathered in a draft, of which `P` tells what one does to it.
inductive Gathers (P : String → Tree → σ → σ → Prop) : List (String × Tree) → σ → σ → Prop
  | nil {draft} : Gathers P [] draft draft
  | cons {key t ms draft draft' draft''} (h : P key t draft draft')
      (hr : Gathers P ms draft' draft'') : Gathers P ((key, t) :: ms) draft draft''

-- `F` tells what the field with a key does to a draft.
def FieldsMake (l : Layout σ α) (F : Nat → String → Tree → σ → σ → Prop) : Prop :=
  ∀ f ∈ l.fields, ∀ room draft, Makes (f.read room · draft) (F room f.name · draft ·)

-- What is made of a record.
inductive Made (l : Layout σ α) (P : String → Tree → σ → σ → Prop) (t : Tree) (a : α) : Prop
  | intro {draft} (hs : l.StandsIn t) (hg : Gathers P (t.fields l.names) l.empty draft)
      (hf : l.finish draft = .ok a)

variable {F : Nat → String → Tree → σ → σ → Prop} {room : Nat} {draft draft' : σ}

theorem exists_field {name : String} (h : name ∈ l.names) :
    ∃ f ∈ l.fields, l.field? name = some f ∧ f.name = name := by
  obtain ⟨f, hf, hn⟩ := List.mem_map.1 h
  cases hfind : l.field? name
  case none      => simpa [hn] using List.find?_eq_none.1 hfind f hf
  case some f' =>
    have hn' := List.find?_some hfind
    exact ⟨f', mem_fields_of_field? hfind, rfl, by simpa using hn'⟩

theorem mem_names_of_field? {name : String} {f : Field σ} (h : l.field? name = some f) :
    name ∈ l.names := by
  have hn := List.find?_some h
  exact List.mem_map.2 ⟨f, mem_fields_of_field? h, by simpa using hn⟩

theorem refusal?_eq_none {seen : List String} {name : String} (hk : name ∈ l.names)
    (hn : name ∉ seen) : l.refusal? seen name = none := by
  obtain ⟨f, _, hf, _⟩ := exists_field hk
  simp [refusal?, hf, hn]

theorem not_mem_seen_of_refusal? {seen : List String} {name : String} (hk : name ∈ l.names)
    (h : l.refusal? seen name = none) : name ∉ seen := by
  obtain ⟨f, _, hf, _⟩ := exists_field hk
  simpa [refusal?, hf] using h

theorem mem_names_of_refusal? (hs : l.strict = true) {seen : List String} {name : String}
    (h : l.refusal? seen name = none) : name ∈ l.names := by
  cases hf : l.field? name
  case some f => exact mem_names_of_field? hf
  case none   => simp [refusal?, hf, hs] at h

theorem gathers_nil_iff {P : String → Tree → σ → σ → Prop} :
    Gathers P [] draft draft' ↔ draft = draft' := by
  constructor
  case mp  => rintro ⟨⟩; rfl
  case mpr => rintro rfl; exact .nil

theorem gathers_cons_iff {P : String → Tree → σ → σ → Prop} {key : String} {t : Tree}
    {ms : List (String × Tree)} :
    Gathers P ((key, t) :: ms) draft draft' ↔ ∃ d, P key t draft d ∧ Gathers P ms d draft' := by
  constructor
  case mp  => rintro ⟨⟩; exact ⟨_, ‹_›, ‹_›⟩
  case mpr => rintro ⟨d, h, hr⟩; exact .cons h hr

-- A member that may stand there is read by its field.
theorem gatherMembers_member {key : String} {seen : List String} (hk : key ∈ l.names)
    (hn : key ∉ seen) (room : Nat) (span : Span) (colon after : Nat) (value : Node) (rest : Members)
    (draft : σ) :
    ∃ f ∈ l.fields, f.name = key ∧
      l.gatherMembers room (.member (.string span (.ok key)) colon value after rest) seen draft =
        (f.read room value draft >>= l.gatherMembers room rest (key :: seen)) := by
  obtain ⟨f, hf, hfind, hname⟩ := exists_field hk
  refine ⟨f, hf, hname, ?_⟩
  rw [Layout.gatherMembers]
  simp only [Node.key, bind, Except.bind, refusal?_eq_none hk hn, hfind]

-- A field of a record comes once, and to a strict record nothing else comes.
theorem gatherMembers_eq_ok {key : String} {seen : List String} {span : Span} {colon after : Nat}
    {value : Node} {rest : Members} {gathered : σ × Nat}
    (h : l.gatherMembers room (.member (.string span (.ok key)) colon value after rest) seen draft =
      .ok gathered) : l.refusal? seen key = none := by
  obtain ⟨_, ⟨⟩, h⟩ := bind_eq_ok_iff.1 h
  cases hr : l.refusal? seen key
  case none        => rfl
  case some reason => simp only [hr] at h; cases h

-- Members that may stand there are gathered, also where others could stand beside them.
theorem FieldsMake.gatherMembers_of_gathers (hl : l.FieldsMake F) {members : Members}
    {ms : List (String × Tree)} (h : members.Hold ms) {seen : List String}
    (hk : ∀ m ∈ ms, m.1 ∈ l.names ∧ m.1 ∉ seen) (hn : (ms.map Prod.fst).Nodup)
    (hg : Gathers (F room) ms draft draft') :
    ∃ stop, l.gatherMembers room members seen draft = .ok (draft', stop) := by
  induction ms generalizing members seen draft
  case nil =>
    cases h
    cases hg
    simp [Layout.gatherMembers, objectEnd, Except.map]
  case cons m ms hi =>
    cases h
    case member value t rest span key colon after hnode hr =>
      obtain ⟨⟨hkey, hseen⟩, hk⟩ := List.forall_mem_cons.1 hk
      obtain ⟨hm, hn⟩ := List.nodup_cons.1 hn
      obtain ⟨d, hd, hg⟩ := gathers_cons_iff.1 hg
      obtain ⟨f, hf, hname, he⟩ :=
        gatherMembers_member hkey hseen room span colon after value rest draft
      have hk : ∀ m ∈ ms, m.1 ∈ l.names ∧ m.1 ∉ key :: seen := fun m h => by
        have hne : m.1 ≠ key := fun he => hm (List.mem_map.2 ⟨m, h, he⟩)
        simp [hk m h, hne]
      obtain ⟨stop, h⟩ := hi hr hk hn hg
      exact ⟨stop, he ▸ bind_eq_ok_iff.2 ⟨d, (hl f hf room draft hnode).2 (hname ▸ hd), h⟩⟩

theorem FieldsMake.gathers_of_gatherMembers (hl : l.FieldsMake F) {members : Members}
    {ms : List (String × Tree)} (h : members.Hold ms)
    (hs : l.strict = true ∨ ∀ m ∈ ms, m.1 ∈ l.names) {seen : List String} {stop : Nat}
    (hg : l.gatherMembers room members seen draft = .ok (draft', stop)) :
    (∀ m ∈ ms, m.1 ∈ l.names ∧ m.1 ∉ seen) ∧ (ms.map Prod.fst).Nodup ∧
      Gathers (F room) ms draft draft' := by
  induction ms generalizing members seen draft
  case nil =>
    cases h
    simp only [Layout.gatherMembers, objectEnd, Except.map, Except.ok.injEq, Prod.mk.injEq] at hg
    exact ⟨by simp, .nil, gathers_nil_iff.2 hg.1⟩
  case cons m ms hi =>
    cases h
    case member value t rest span key colon after hnode hr =>
      have hrefusal := gatherMembers_eq_ok hg
      have hk : key ∈ l.names := hs.elim (mem_names_of_refusal? · hrefusal)
        fun hk => hk _ List.mem_cons_self
      have hseen := not_mem_seen_of_refusal? hk hrefusal
      obtain ⟨f, hf, hname, he⟩ :=
        gatherMembers_member hk hseen room span colon after value rest draft
      obtain ⟨d, hd, hg⟩ := bind_eq_ok_iff.1 (he ▸ hg)
      obtain ⟨hms, hnodup, hg⟩ :=
        hi hr (hs.imp_right fun hk m hm => hk m (List.mem_cons_of_mem _ hm)) hg
      have hd : F room key t draft d := hname ▸ (hl f hf room draft hnode).1 hd
      simp only [List.mem_cons, not_or] at hms
      refine ⟨List.forall_mem_cons.2 ⟨⟨hk, hseen⟩, fun m hm => ?_⟩, ?_, .cons hd hg⟩
      case refine_1 => exact ⟨(hms m hm).1, (hms m hm).2.2⟩
      case refine_2 =>
        refine List.nodup_cons.2 ⟨fun hkey => ?_, hnodup⟩
        obtain ⟨m, hm, hkey⟩ := List.mem_map.1 hkey
        exact (hms m hm).2.1 hkey

theorem FieldsMake.gatherItems (hl : l.FieldsMake F) {fs : List (Field σ)} (hfs : fs ⊆ l.fields)
    {items : Items} {ts : List Tree} (h : items.Hold ts) {draft draft' : σ} :
    (∃ stop, Layout.gatherItems room fs items draft = .ok (draft', stop)) ↔
      ts.length ≤ fs.length ∧ Gathers (F room) ((fs.map Field.name).zip ts) draft draft' := by
  induction fs generalizing items ts draft
  case nil =>
    match h with
    | .ended _   => simp [Layout.gatherItems, arrayEnd, Except.map, gathers_nil_iff]
    | .item hn _ =>
      cases hn <;>
        simp [Layout.gatherItems, arrayEnd, Except.map, Node.asItem, Node.trailingComma?]
  case cons f fs hi =>
    obtain ⟨hf, hfs⟩ := List.cons_subset.1 hfs
    match h with
    | .ended _ => simp [Layout.gatherItems, listEnd, Except.map, gathers_nil_iff]
    | .item hn hr =>
      simp only [Layout.gatherItems, hn.asItem, bind_eq_ok_iff, List.map_cons, List.zip_cons_cons,
        gathers_cons_iff, List.length_cons, Nat.add_le_add_iff_right]
      constructor
      case mp =>
        rintro ⟨stop, d, hd, h⟩
        obtain ⟨hlen, hg⟩ := (hi hfs hr).1 ⟨stop, h⟩
        exact ⟨hlen, d, (hl f hf room draft hn).1 hd, hg⟩
      case mpr =>
        rintro ⟨hlen, d, hd, hg⟩
        obtain ⟨stop, h⟩ := (hi hfs hr).2 ⟨hlen, hg⟩
        exact ⟨stop, d, (hl f hf room draft hn).2 hd, h⟩

theorem close_eq_ok_iff {missing : String → Reason} {gathered : σ × Nat} {a : α} :
    l.close missing gathered = .ok a ↔ l.finish gathered.1 = .ok a := by
  unfold close
  cases l.finish gathered.1 <;> simp

-- A record is read from a tree that makes it, also if it could have other members.
theorem FieldsMake.decode_of_made (hl : l.FieldsMake F) {node : Node} {t : Tree} {a : α}
    (h : node.Holds t) (hm : Nested (fun room => l.Made (F room)) room t a) :
    l.decode room node = .ok a := by
  obtain ⟨⟨hst, hg, hf⟩⟩ := hm
  cases hst
  case array hlen =>
    cases h
    case array hi =>
      obtain ⟨stop, hg⟩ := (hl.gatherItems (List.Subset.refl _) hi).2 ⟨hlen, hg⟩
      exact bind_eq_ok_iff.2 ⟨_, hg, close_eq_ok_iff.2 hf⟩
  case object hk hn =>
    cases h
    case object hm =>
      obtain ⟨stop, hg⟩ := hl.gatherMembers_of_gathers hm
        (fun m hm => ⟨hk m hm, List.not_mem_nil⟩) hn hg
      exact bind_eq_ok_iff.2 ⟨_, hg, close_eq_ok_iff.2 hf⟩

-- The fields of a tree that a record is read from are its own if the record is strict.
theorem FieldsMake.made_of_decode (hl : l.FieldsMake F) {node : Node} {t : Tree} {a : α}
    (h : node.Holds t) (hs : l.strict = true ∨ ∀ m ∈ t.fields l.names, m.1 ∈ l.names)
    (he : l.decode room node = .ok a) : Nested (fun room => l.Made (F room)) room t a := by
  unfold Layout.decode at he
  split at he
  case h_3 =>
    cases h
    case array hi =>
      obtain ⟨⟨draft, stop⟩, hg, hc⟩ := bind_eq_ok_iff.1 he
      obtain ⟨hlen, hg⟩ := (hl.gatherItems (List.Subset.refl _) hi).1 ⟨stop, hg⟩
      exact .intro (.intro (.array hlen) hg (close_eq_ok_iff.1 hc))
  case h_4 =>
    cases h
    case object hm =>
      obtain ⟨⟨draft, stop⟩, hg, hc⟩ := bind_eq_ok_iff.1 he
      obtain ⟨hk, hn, hg⟩ := hl.gathers_of_gatherMembers hm hs hg
      exact .intro (.intro (.object (fun m hm => (hk m hm).1) hn) hg (close_eq_ok_iff.1 hc))
  all_goals cases he

theorem FieldsMake.decode (hl : l.FieldsMake F) (hs : l.strict = true) :
    l.decode.Makes (Nested fun room => l.Made (F room)) :=
  fun _ _ _ _ h => ⟨hl.made_of_decode h (.inl hs), hl.decode_of_made h⟩

section Parts

variable {P : String → Tree → σ → σ → Prop} {t : Tree} {ms : List (String × Tree)}

theorem StandsIn.nodup (h : l.StandsIn t) (hl : l.names.Nodup) :
    ((t.fields l.names).map Prod.fst).Nodup := by
  cases h
  case object hk hn => exact hn
  case array h      => exact hl.sublist map_fst_zip_sublist

theorem StandsIn.mem_names (h : l.StandsIn t) : ∀ m ∈ t.fields l.names, m.1 ∈ l.names := by
  intro m hm
  cases h
  case object hk _ => exact hk m hm
  case array       => exact (List.of_mem_zip hm).1

-- Members that can be gathered on their own, whatever there is before them, are gathered.
theorem exists_gathers (h : ∀ m ∈ ms, ∀ draft, ∃ draft', P m.1 m.2 draft draft') (draft : σ) :
    ∃ draft', Gathers P ms draft draft' := by
  induction ms generalizing draft
  case nil => exact ⟨draft, .nil⟩
  case cons m ms hi =>
    obtain ⟨hm, h⟩ := List.forall_mem_cons.1 h
    obtain ⟨d, hd⟩ := hm draft
    obtain ⟨draft', hg⟩ := hi h d
    exact ⟨draft', .cons hd hg⟩

-- A part of a record that is made of the member with a key, and stays as it was where there is none.
inductive Taken (Q : Tree → β → Prop) (ms : List (String × Tree)) (key : String)
    (before after : β) : Prop
  | member {value} (h : (key, value) ∈ ms) (hq : Q value after)
  | absent (h : key ∉ ms.map Prod.fst) (he : after = before)

theorem Taken.of_mem {Q : Tree → β → Prop} {key : String} {before after : β}
    (h : Taken Q ms key before after) (hn : (ms.map Prod.fst).Nodup) (ht : (key, t) ∈ ms) :
    Q t after := by
  cases h
  case member h hq => exact eq_of_mem_of_nodup hn h ht ▸ hq
  case absent h _  => exact absurd (List.mem_map_of_mem ht) h

-- What is made of each tree is one thing, and so it is with parts of records.
theorem Taken.unique {Q : Tree → β → Prop} {key : String} {before after after' : β}
    (hq : Relator.RightUnique Q) (hn : (ms.map Prod.fst).Nodup)
    (h : Taken Q ms key before after) (h' : Taken Q ms key before after') : after = after' := by
  cases h'
  case member ht hq' => exact hq (h.of_mem hn ht) hq'
  case absent hk he' =>
    cases h
    case member ht _ => exact absurd (List.mem_map_of_mem ht) hk
    case absent he   => exact he.trans he'.symm

-- What a record cannot do without has a member.
theorem Taken.exists_mem {Q : Tree → β → Prop} {key : String} {before : Option β} {b : β}
    (h : Taken (fun t a => ∃ b, Q t b ∧ a = some b) ms key before (some b)) (hb : before = none) :
    ∃ t, (key, t) ∈ ms ∧ Q t b := by
  cases h
  case absent he => cases he.trans hb
  case member h hq =>
    obtain ⟨_, hq, ⟨⟩⟩ := hq
    exact ⟨_, h, hq⟩

variable {key : String} {Q : Tree → β → Prop}

theorem Gathers.part_eq {part : σ → β} (h : Gathers P ms draft draft')
    (hk : ∀ {k t draft draft'}, P k t draft draft' → k ≠ key → part draft' = part draft)
    (hn : key ∉ ms.map Prod.fst) : part draft' = part draft := by
  induction h
  case nil => rfl
  case cons h _ hi =>
    obtain ⟨hne, hn⟩ := not_or.1 (List.mem_cons.not.1 hn)
    rw [hi hn, hk h (Ne.symm hne)]

-- Of the members that are gathered only the one with a key changes a part of the draft.
theorem Gathers.taken (h : Gathers P ms draft draft') (hn : (ms.map Prod.fst).Nodup)
    (part : σ → β)
    (hq : ∀ {t draft draft'}, P key t draft draft' → Q t (part draft'))
    (hk : ∀ {k t draft draft'}, P k t draft draft' → k ≠ key → part draft' = part draft) :
    Taken Q ms key (part draft) (part draft') := by
  induction h
  case nil => exact .absent List.not_mem_nil rfl
  case cons k t ms draft d draft' h hr hi =>
    obtain ⟨hm, hn⟩ := List.nodup_cons.1 hn
    by_cases hkey : k = key
    case pos =>
      subst hkey
      exact .member List.mem_cons_self (hr.part_eq hk hm ▸ hq h)
    case neg =>
      cases hi hn
      case member ht hq => exact .member (List.mem_cons_of_mem _ ht) hq
      case absent hm he =>
        refine .absent (List.mem_cons.not.2 (not_or.2 ⟨Ne.symm hkey, hm⟩)) (he.trans (hk h hkey))

end Parts
end Layout
end ChainHost.Json
