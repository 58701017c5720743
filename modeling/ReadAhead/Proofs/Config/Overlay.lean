/-
Settings that are given in part. An overlay says which fields are given and what they are;
`Overlay.onto` puts them in the place of those that settings have. Members lay an overlay
(`Lays`) if they are its fields, each once, in their sections, with anything between them that
no table knows. Where they stand does not matter then, and the settings that are read are the
overlay on the standard ones.

What the order cannot change is not only what is read but whether it is: two documents with the
same fields, in whatever order and among whatever other members (`Rearranged`), are both read to
the same settings or both refused.
-/
import ReadAhead.Config.Document
import ReadAhead.Proofs.Config.Members
import ReadAhead.Proofs.Json.Writing
import Mathlib.Data.List.Pairwise

set_option autoImplicit false

namespace ReadAhead.Config

/-! ## Overlays -/

/-- What may be given of a buffer's settings. -/
structure BufferOverlay where
  blockShift : Option UInt32
  maxLookahead : Option UInt64
  maxCacheBytes : Option UInt64
  pinnedBlocks : Option UInt64

/-- What may be given of a data source's settings. -/
structure SourceOverlay where
  retryDelayMs : Option UInt64

/-- What may be given of the HTTP client's settings. That there is no deadline can be given, and
so can that there is no agent. -/
structure HttpOverlay where
  connectTimeoutSecs : Option UInt64
  requestTimeoutSecs : Option (Option UInt64)
  userAgent : Option (Option String)
  useSystemProxy : Option Bool

/-- **Settings that are given in part.** -/
structure Overlay where
  buffer : BufferOverlay
  source : SourceOverlay
  http : HttpOverlay

/-! ### Laid on settings -/

def BufferOverlay.onto (o : BufferOverlay) (s : BufferSettings) : BufferSettings where
  blockShift := (o.blockShift.map UInt32.toNat).getD s.blockShift
  maxLookahead := (o.maxLookahead.map UInt64.toNat).getD s.maxLookahead
  maxCacheBytes := (o.maxCacheBytes.map UInt64.toNat).getD s.maxCacheBytes
  pinnedBlocks := (o.pinnedBlocks.map UInt64.toNat).getD s.pinnedBlocks

def SourceOverlay.onto (o : SourceOverlay) (s : SourceSettings) : SourceSettings where
  retryDelayMs := (o.retryDelayMs.map UInt64.toNat).getD s.retryDelayMs

def HttpOverlay.onto (o : HttpOverlay) (s : HttpSettings) : HttpSettings where
  connectTimeoutSecs := (o.connectTimeoutSecs.map UInt64.toNat).getD s.connectTimeoutSecs
  requestTimeoutSecs :=
    (o.requestTimeoutSecs.map (Option.map UInt64.toNat)).getD s.requestTimeoutSecs
  userAgent := o.userAgent.getD s.userAgent
  useSystemProxy := o.useSystemProxy.getD s.useSystemProxy

/-- The given fields in place of those of the settings. -/
def Overlay.onto (o : Overlay) (s : Settings) : Settings where
  buffer := o.buffer.onto s.buffer
  source := o.source.onto s.source
  http := o.http.onto s.http

/-! ### Written -/

def ofWord32 (n : UInt32) : Json := .nat n.toNat

def ofWord64 (n : UInt64) : Json := .nat n.toNat

def ofString (s : String) : Json := .string (Json.text s)

def BufferOverlay.given (o : BufferOverlay) : List (String × Option Json) :=
  [ ("block_shift", o.blockShift.map ofWord32),
    ("max_lookahead", o.maxLookahead.map ofWord64),
    ("max_cache_bytes", o.maxCacheBytes.map ofWord64),
    ("pinned_blocks", o.pinnedBlocks.map ofWord64) ]

def SourceOverlay.given (o : SourceOverlay) : List (String × Option Json) :=
  [("read_retry_delay_ms", o.retryDelayMs.map ofWord64)]

def HttpOverlay.given (o : HttpOverlay) : List (String × Option Json) :=
  [ ("connect_timeout_secs", o.connectTimeoutSecs.map ofWord64),
    ("request_timeout_secs", o.requestTimeoutSecs.map (optional ofWord64)),
    ("user_agent", o.userAgent.map (optional ofString)),
    ("use_system_proxy", o.useSystemProxy.map .bool) ]

/-- **Members lay an overlay**: each field that is given stands in its section, once, and a
section that has none may be left out. The order is any, and so is what else there is. -/
inductive Lays (o : Overlay) (members : List Member) : Prop
  | sections {buffer source http : Option (List Member)}
      (hbuffer : Carries o.buffer.given (buffer.getD []))
      (hsource : Carries o.source.given (source.getD []))
      (hhttp : Carries o.http.given (http.getD []))
      (h : Carries [("multibuffer", buffer.map .object), ("data_source", source.map .object),
        ("http", http.map .object)] members) : Lays o members

/-! ## Values -/

theorem nat?_nat {limit n : Nat} (h : n < limit) : Json.nat? limit (.nat n) = some n := by
  rw [Json.nat, Json.nat?, Option.filter_eq_some_iff, Text.Decimal.value?_eq_some_iff,
    decide_eq_true_iff]
  exact ⟨Text.Decimal.denotes_digits n, h⟩

theorem word32?_ofWord32 (n : UInt32) : word32? (ofWord32 n) = some n.toNat :=
  nat?_nat n.toNat_lt

theorem word64?_ofWord64 (n : UInt64) : word64? (ofWord64 n) = some n.toNat :=
  nat?_nat n.toNat_lt

/-- A value that is never `null` can be read where `null` stands for none. -/
theorem optional?_optional {α β : Type} {read : Json → Option β} {write : α → Json} {mean : α → β}
    (hread : ∀ a, read (write a) = some (mean a)) (hnull : ∀ a, write a ≠ .null) (a : Option α) :
    Json.optional? read (optional write a) = some (a.map mean) := by
  cases a with
  | none => rfl
  | some a =>
    rw [optional, Json.optional?.eq_2 _ _ (hnull a), hread]
    rfl

theorem optional?_ofWord64 (n : Option UInt64) :
    Json.optional? word64? (optional ofWord64 n) = some (n.map UInt64.toNat) :=
  optional?_optional word64?_ofWord64 (fun _ => Json.noConfusion) n

theorem optional?_ofString (s : Option String) :
    Json.optional? Json.text? (optional ofString s) = some s := by
  have hread : ∀ s, Json.text? (ofString s) = some (id s) := string?_text
  rw [optional?_optional hread (fun _ => Json.noConfusion), Option.map_id_fun, id]

/-! ## Documents that are read alike, or not at all -/

/-- The sections, and the names of the fields in each of them. -/
def sections : List (String × List String) :=
  [ ("multibuffer", ["block_shift", "max_lookahead", "max_cache_bytes", "pinned_blocks"]),
    ("data_source", ["read_retry_delay_ms"]),
    ("http",
      ["connect_timeout_secs", "request_timeout_secs", "user_agent", "use_system_proxy"]) ]

/-- A section is there twice, or a field in a section. -/
inductive Repeats (members : List Member) : Prop
  | outside {name : String} {names : List String} (h : (name, names) ∈ sections)
      (twice : 1 < (members.map Prod.fst).count (Json.text name)) : Repeats members
  | inside {name field : String} {names : List String} {inner : List Member}
      (h : (name, names) ∈ sections) (hfield : field ∈ names)
      (hinner : (Json.text name, .object inner) ∈ members)
      (twice : 1 < (inner.map Prod.fst).count (Json.text field)) : Repeats members

/-- The same members in another order, or with some added or left out that have other names than
these. -/
inductive Shuffled (names : List String) : List Member → List Member → Prop
  | order {members others : List Member} (h : members.Perm others) : Shuffled names members others
  | stranger {name : String} (h : name ∉ names) (value : Json) (members : List Member) :
      Shuffled names ((Json.text name, value) :: members) members
  | symm {members others : List Member} (h : Shuffled names members others) :
      Shuffled names others members
  | trans {members others more : List Member} (h : Shuffled names members others)
      (hmore : Shuffled names others more) : Shuffled names members more

/-- **The same document but for the order**, and for what no table knows, at both levels. -/
inductive Rearranged : List Member → List Member → Prop
  | outside {members others : List Member} (h : Shuffled (sections.map Prod.fst) members others) :
      Rearranged members others
  | inside {name : String} {names : List String} (h : (name, names) ∈ sections)
      {inner other : List Member} (hinner : Shuffled names inner other) (members : List Member) :
      Rearranged ((Json.text name, .object inner) :: members)
        ((Json.text name, .object other) :: members)
  | trans {members others more : List Member} (h : Rearranged members others)
      (hmore : Rearranged others more) : Rearranged members more

/-! ## Tables -/

instance symm_commute {σ : Type} : Std.Symm (@Commute σ) where
  symm := fun _ _ h v w record => (h w v record).symm

theorem IsTable.of_pairwise {σ : Type} {fields : List (Field σ)}
    (distinct : (fields.map (·.name)).Nodup) (h : fields.Pairwise Commute) : IsTable fields where
  distinct := distinct
  commute := fun _ hfirst _ hsecond hne =>
    h.forall hfirst hsecond fun heq => hne (congrArg Field.name heq)

theorem isTable_buffer : IsTable bufferFields := by
  refine .of_pairwise (by decide) ?_
  simp only [bufferFields, List.pairwise_cons, List.forall_mem_cons]
  refine ⟨⟨?_, ?_, ?_, nofun⟩, ⟨?_, ?_, nofun⟩, ⟨?_, nofun⟩, nofun, .nil⟩ <;>
    exact commute_of fun _ _ _ => rfl

theorem isTable_source : IsTable sourceFields :=
  .of_pairwise (by decide) (List.pairwise_singleton _ _)

theorem isTable_http : IsTable httpFields := by
  refine .of_pairwise (by decide) ?_
  simp only [httpFields, List.pairwise_cons, List.forall_mem_cons]
  refine ⟨⟨?_, ?_, ?_, nofun⟩, ⟨?_, ?_, nofun⟩, ⟨?_, nofun⟩, nofun, .nil⟩ <;>
    exact commute_of fun _ _ _ => rfl

theorem isTable_settings : IsTable settingsFields := by
  refine .of_pairwise (by decide) ?_
  simp only [settingsFields, List.pairwise_cons, List.forall_mem_cons]
  refine ⟨⟨?_, ?_, nofun⟩, ⟨?_, nofun⟩, nofun, .nil⟩ <;> exact commute_of fun _ _ _ => rfl

/-! ## Reading an overlay -/

section

variable {σ : Type}

theorem foldlM_give {entry : Field σ × Option Json} {rest : List (Field σ × Option Json)}
    {record next result : σ} (h : give record entry = some next)
    (hrest : rest.foldlM give next = some result) :
    (entry :: rest).foldlM give record = some result := by
  rw [List.foldlM_cons, h]
  exact hrest

/-- **A field that is given takes its place**, any other keeps it. -/
theorem give_of {α β : Type} {name : String} {read : Json → Option β} {put : β → σ → σ}
    {write : α → Json} {mean : α → β} (place : σ → β) (hread : ∀ a, read (write a) = some (mean a))
    (hplace : ∀ record, put (place record) record = record) {value : Option α} {record : σ} :
    give record (.of name read put, value.map write) =
      some (put ((value.map mean).getD (place record)) record) := by
  cases value with
  | none => exact congrArg some (hplace record).symm
  | some a => simp [give, Field.of, hread]

/-- A section that is not there is read as one without members. -/
theorem give_section {τ : Type} {name : String} {fields : List (Field τ)} {defaults part : τ}
    {put : τ → σ → σ} {inner : Option (List Member)}
    (h : readRecord fields defaults (.object (inner.getD [])) = some part) {record : σ}
    (hkeep : put defaults record = record) :
    give record (.of name (readRecord fields defaults) put, inner.map .object) =
      some (put part record) := by
  cases inner with
  | none =>
    -- Nothing was set, so that what would have been put there is there.
    obtain rfl : defaults = part := Option.some.inj h
    exact congrArg some hkeep.symm
  | some members =>
    have hread : readRecord fields defaults (.object members) = some part := h
    simp [give, Field.of, hread]

end

theorem readRecord_buffer {o : BufferOverlay} {members : List Member}
    (h : Carries o.given members) (s : BufferSettings) :
    readRecord bufferFields s (.object members) = some (o.onto s) := by
  refine readRecord_of_carries (bufferFields.zip (o.given.map Prod.snd)) isTable_buffer h ?_
  refine foldlM_give (give_of (·.blockShift) word32?_ofWord32 fun _ => rfl) ?_
  refine foldlM_give (give_of (·.maxLookahead) word64?_ofWord64 fun _ => rfl) ?_
  refine foldlM_give (give_of (·.maxCacheBytes) word64?_ofWord64 fun _ => rfl) ?_
  refine foldlM_give (give_of (·.pinnedBlocks) word64?_ofWord64 fun _ => rfl) ?_
  rfl

theorem readRecord_source {o : SourceOverlay} {members : List Member}
    (h : Carries o.given members) (s : SourceSettings) :
    readRecord sourceFields s (.object members) = some (o.onto s) := by
  refine readRecord_of_carries (sourceFields.zip (o.given.map Prod.snd)) isTable_source h ?_
  refine foldlM_give (give_of (·.retryDelayMs) word64?_ofWord64 fun _ => rfl) ?_
  rfl

theorem readRecord_http {o : HttpOverlay} {members : List Member}
    (h : Carries o.given members) (s : HttpSettings) :
    readRecord httpFields s (.object members) = some (o.onto s) := by
  refine readRecord_of_carries (httpFields.zip (o.given.map Prod.snd)) isTable_http h ?_
  refine foldlM_give (give_of (·.connectTimeoutSecs) word64?_ofWord64 fun _ => rfl) ?_
  refine foldlM_give (give_of (·.requestTimeoutSecs) optional?_ofWord64 fun _ => rfl) ?_
  refine foldlM_give (give_of (·.userAgent) optional?_ofString fun _ => rfl) ?_
  refine foldlM_give (give_of HttpSettings.useSystemProxy (fun _ => rfl) fun _ => rfl) ?_
  simp [HttpOverlay.onto]

/-- **What an overlay makes of the standard settings** is read, wherever its members stand. -/
theorem Lays.readRecord {o : Overlay} {members : List Member} (h : Lays o members) :
    readRecord settingsFields .standard (.object members) = some (o.onto .standard) := by
  obtain @⟨buffer, source, http, hbuffer, hsource, hhttp, h⟩ := h
  refine readRecord_of_carries
    (settingsFields.zip [buffer.map .object, source.map .object, http.map .object])
    isTable_settings h ?_
  refine foldlM_give (give_section (readRecord_buffer hbuffer _) rfl) ?_
  refine foldlM_give (give_section (readRecord_source hsource _) rfl) ?_
  refine foldlM_give (give_section (readRecord_http hhttp _) rfl) ?_
  rfl

/-! ## Sections -/

/-- Every section is a record of its own. -/
theorem exists_section {name : String} {names : List String} (h : (name, names) ∈ sections) :
    ∃ (τ : Type) (fields : List (Field τ)) (defaults : τ) (put : τ → Settings → Settings),
      IsTable fields ∧ fields.map (·.name) = names ∧
        Field.find? settingsFields name = some (.of name (readRecord fields defaults) put) := by
  simp only [sections, List.mem_cons, Prod.mk.injEq, List.not_mem_nil, or_false] at h
  obtain ⟨rfl, rfl⟩ | ⟨rfl, rfl⟩ | ⟨rfl, rfl⟩ := h
  · exact ⟨_, bufferFields, .standard, _, isTable_buffer, rfl, rfl⟩
  · exact ⟨_, sourceFields, .standard, _, isTable_source, rfl, rfl⟩
  · exact ⟨_, httpFields, .standard, _, isTable_http, rfl, rfl⟩

theorem count_le_one {σ : Type} {fields : List (Field σ)} (htable : IsTable fields)
    {defaults result : σ} {members : List Member}
    (h : readRecord fields defaults (.object members) = some result) {name : String}
    (hname : name ∈ fields.map (·.name)) :
    (members.map Prod.fst).count (Json.text name) ≤ 1 := by
  obtain ⟨field, hfield, rfl⟩ := List.mem_map.1 hname
  exact (readRecord_sound h (Field.find?_name htable.distinct hfield)).1

/-- **What is there twice is refused**, inside a section or outside. -/
theorem Repeats.readRecord {members : List Member} (h : Repeats members) :
    readRecord settingsFields .standard (.object members) = none := by
  cases hread : Config.readRecord settingsFields .standard (.object members) with
  | none => rfl
  | some result =>
    exfalso
    cases h with
    | outside h twice =>
      obtain ⟨_, _, _, _, -, -, hfound⟩ := exists_section h
      exact Nat.not_le.2 twice (readRecord_sound hread hfound).1
    | inside h hfield hinner twice =>
      -- The section was read, so that its fields are there once.
      obtain ⟨_, fields, defaults, put, htable, rfl, hfound⟩ := exists_section h
      obtain ⟨before, after, hset⟩ := (readRecord_sound hread hfound).2 _ hinner
      obtain ⟨part, hpart, -⟩ := Option.map_eq_some_iff.1 hset
      exact Nat.not_le.2 twice (count_le_one htable hpart hfield)

theorem Shuffled.readRecord {σ : Type} {fields : List (Field σ)} (htable : IsTable fields)
    {members others : List Member} (h : Shuffled (fields.map (·.name)) members others)
    (defaults : σ) : readRecord fields defaults (.object members) =
      readRecord fields defaults (.object others) := by
  induction h with
  | order h => exact readRecord_perm htable h defaults
  | stranger h value members => exact readRecord_stranger h value members defaults
  | symm _ ih => exact ih.symm
  | trans _ _ ih ih' => exact ih.trans ih'

/-- **The order changes nothing**, and nothing does that no table knows. -/
theorem Rearranged.readRecord {members others : List Member} (h : Rearranged members others) :
    readRecord settingsFields .standard (.object members) =
      readRecord settingsFields .standard (.object others) := by
  induction h with
  | outside h => exact h.readRecord isTable_settings .standard
  | inside h hinner members =>
    obtain ⟨_, fields, defaults, put, htable, rfl, hfound⟩ := exists_section h
    have hsame := hinner.readRecord htable defaults
    rw [Config.readRecord, Config.readRecord, List.foldlM_cons, List.foldlM_cons,
      setMember_of_known (string?_text _) hfound, setMember_of_known (string?_text _) hfound]
    simp only [Field.of, hsame]
  | trans _ _ ih ih' => exact ih.trans ih'

/-! ## Texts -/

theorem ofText_of_document {text : String} {v : Json} (h : Json.Document v (Json.text text)) :
    ofText text = ofParsed (some v) := by
  rw [ofText, Json.ofString?, h.parse?_eq]

/-- **Settings in part.** A text of an object is read to what the fields that it gives make of
the standard settings, and those are checked; with anything given twice it is no settings; and
neither the order of its members matters nor members that no table knows, whichever of these it
is. -/
theorem settings_in_part {text : String} {members : List Member}
    (h : Json.Document (.object members) (Json.text text)) :
    (∀ o : Overlay, Lays o members → ofText text = (o.onto .standard).validate) ∧
      (Repeats members → ofText text = .error .parse) ∧
      ∀ (other : String) (others : List Member), Rearranged members others →
        Json.Document (.object others) (Json.text other) → ofText other = ofText text := by
  refine ⟨fun o hlays => ?_, fun hrepeats => ?_, fun other others hrearranged hother => ?_⟩
  · rw [ofText_of_document h, ofParsed, Option.bind_some, ofDocument?, hlays.readRecord]
  · rw [ofText_of_document h, ofParsed, Option.bind_some, ofDocument?, hrepeats.readRecord]
  · rw [ofText_of_document h, ofText_of_document hother, ofParsed, ofParsed, Option.bind_some,
      Option.bind_some, ofDocument?, ofDocument?, hrearranged.readRecord]

/-- Members with strangers at both levels, their sections not in order, and one left out. -/
def mixed : List Member :=
  [ (Json.text "note", .array [.null]),
    (Json.text "http", .object
      [ (Json.text "colour", .bool true), (Json.text "user_agent", .null),
        (Json.text "request_timeout_secs", ofWord64 7) ]),
    (Json.text "multibuffer", .object [(Json.text "block_shift", ofWord32 14)]) ]

theorem proper_mixed : Json.Proper (.object mixed) := by
  refine .object ?_
  simp only [mixed, List.forall_mem_cons]
  refine ⟨.array ?_, .object ?_, .object ?_, List.forall_mem_nil _⟩
  · exact List.forall_mem_singleton.2 .null
  · simp only [List.forall_mem_cons]
    exact ⟨.bool true, .null, Json.proper_nat 7, List.forall_mem_nil _⟩
  · exact List.forall_mem_singleton.2 (Json.proper_nat 14)

theorem lays_mixed : Lays ⟨⟨some 14, none, none, none⟩, ⟨none⟩,
    ⟨none, some (some 7), some none, none⟩⟩ mixed := by
  have hbuffer : Carries (BufferOverlay.given ⟨some 14, none, none, none⟩)
      [(Json.text "block_shift", ofWord32 14)] := .alone _
  have hsource : Carries (SourceOverlay.given ⟨none⟩) [] := .alone _
  have hhttp : Carries (HttpOverlay.given ⟨none, some (some 7), some none, none⟩)
      [ (Json.text "colour", .bool true), (Json.text "user_agent", .null),
        (Json.text "request_timeout_secs", ofWord64 7) ] :=
    ((Carries.alone _).perm (.swap _ _ _)).stranger (by decide) _
  refine @Lays.sections _ _ (some _) none (some _) hbuffer hsource hhttp ?_
  exact ((Carries.alone _).perm (.swap _ _ _)).stranger (by decide) _

/-- Such a text is read as what it gives. -/
theorem settings_in_part_mixed :
    Json.Document (.object mixed) (Json.text (Json.pretty (.object mixed))) ∧
      ofText (Json.pretty (.object mixed)) = .ok
        { Settings.standard with
          buffer := { BufferSettings.standard with blockShift := 14 }
          http := { HttpSettings.standard with requestTimeoutSecs := some 7 } } := by
  refine ⟨proper_mixed.document_pretty, ?_⟩
  exact (settings_in_part proper_mixed.document_pretty).1 _ lays_mixed

end ReadAhead.Config
