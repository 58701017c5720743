/-
Settings that are written and read back, from a text and from a file. What is written gives
every field, so that nothing of the standard settings is left in what is read; it is the overlay
of all fields, and the two layouts are two texts of one document.

The other way round, whatever text or file settings were read from, their numbers have the width
of their fields, and what was checked of them is all that a cache of theirs asks for, or a
buffer, or a source.
-/
import ReadAhead.Proofs.Buffer.Repetition
import ReadAhead.Proofs.Config.Overlay
import ReadAhead.Source.Remote

set_option autoImplicit false

namespace ReadAhead

/-! ## The width of fields -/

structure BufferSettings.InRange (s : BufferSettings) : Prop where
  blockShift : s.blockShift < UInt32.size
  maxLookahead : s.maxLookahead < UInt64.size
  maxCacheBytes : s.maxCacheBytes < UInt64.size
  pinnedBlocks : s.pinnedBlocks < UInt64.size

structure SourceSettings.InRange (s : SourceSettings) : Prop where
  retryDelayMs : s.retryDelayMs < UInt64.size

structure HttpSettings.InRange (s : HttpSettings) : Prop where
  connectTimeoutSecs : s.connectTimeoutSecs < UInt64.size
  requestTimeoutSecs : ∀ secs, s.requestTimeoutSecs = some secs → secs < UInt64.size

/-- **The numbers have the width of their fields**: 32 bits for the shift, 64 for the others. -/
structure Settings.InRange (s : Settings) : Prop where
  buffer : s.buffer.InRange
  source : s.source.InRange
  http : s.http.InRange

namespace Config

/-! ## Written -/

/-- The overlay that gives every field. -/
def Overlay.whole (s : Settings) : Overlay where
  buffer :=
    { blockShift := some (.ofNat s.buffer.blockShift)
      maxLookahead := some (.ofNat s.buffer.maxLookahead)
      maxCacheBytes := some (.ofNat s.buffer.maxCacheBytes)
      pinnedBlocks := some (.ofNat s.buffer.pinnedBlocks) }
  source := { retryDelayMs := some (.ofNat s.source.retryDelayMs) }
  http :=
    { connectTimeoutSecs := some (.ofNat s.http.connectTimeoutSecs)
      requestTimeoutSecs := some (s.http.requestTimeoutSecs.map .ofNat)
      userAgent := some s.http.userAgent
      useSystemProxy := some s.http.useSystemProxy }

/-- Where it is laid there is nothing left to see of what was there. -/
theorem Overlay.onto_whole {s : Settings} (h : s.InRange) (t : Settings) :
    (whole s).onto t = s := by
  obtain ⟨⟨shift, lookahead, cache, pinned⟩, ⟨delay⟩, ⟨connect, request, agent, proxy⟩⟩ := s
  obtain ⟨⟨hshift, hlookahead, hcache, hpinned⟩, ⟨hdelay⟩, ⟨hconnect, hrequest⟩⟩ := h
  have hsecs : (request.map UInt64.ofNat).map UInt64.toNat = request := by
    cases request with
    | none => rfl
    | some secs => exact congrArg some (UInt64.toNat_ofNat_of_lt' (hrequest secs rfl))
  simp only [whole, onto, BufferOverlay.onto, SourceOverlay.onto, HttpOverlay.onto,
    Option.map_some, Option.getD_some, hsecs, UInt32.toNat_ofNat_of_lt' hshift,
    UInt64.toNat_ofNat_of_lt' hlookahead, UInt64.toNat_ofNat_of_lt' hcache,
    UInt64.toNat_ofNat_of_lt' hpinned, UInt64.toNat_ofNat_of_lt' hdelay,
    UInt64.toNat_ofNat_of_lt' hconnect]

/-- A document gives all fields in their order and nothing else. -/
theorem document_eq {s : Settings} (h : s.InRange) :
    document s = .object
      [ (Json.text "multibuffer", .object (membersOf (Overlay.whole s).buffer.given)),
        (Json.text "data_source", .object (membersOf (Overlay.whole s).source.given)),
        (Json.text "http", .object (membersOf (Overlay.whole s).http.given)) ] := by
  -- A number is written in the same way as a word; for the deadline there may be none.
  have hsecs : ∀ secs : Option UInt64,
      optional Json.nat (secs.map UInt64.toNat) = optional ofWord64 secs := by
    rintro (_ | _) <;> rfl
  calc document s = document ((Overlay.whole s).onto s) := by rw [Overlay.onto_whole h]
    _ = _ := by
      rw [document, ofHttp]
      simp only [Overlay.onto, HttpOverlay.onto, Overlay.whole, Option.map_some, Option.getD_some,
        hsecs]
      rfl

theorem lays_document {s : Settings} (h : s.InRange) :
    ∃ members, document s = .object members ∧ Lays (.whole s) members :=
  ⟨_, document_eq h,
    @Lays.sections _ _ (some _) (some _) (some _) (.alone _) (.alone _) (.alone _) (.alone _)⟩

theorem proper_document (s : Settings) : Json.Proper (document s) := by
  have hoptional : ∀ {α : Type} {write : α → Json} {value : Option α},
      (∀ a, Json.Proper (write a)) → Json.Proper (optional write value) := by
    intro α write value hwrite
    cases value with
    | none => exact .null
    | some a => exact hwrite a
  have hbuffer : Json.Proper (ofBuffer s.buffer) := by
    refine .object ?_
    simp only [List.forall_mem_cons]
    exact ⟨Json.proper_nat _, Json.proper_nat _, Json.proper_nat _, Json.proper_nat _,
      List.forall_mem_nil _⟩
  have hsource : Json.Proper (ofSource s.source) :=
    .object (List.forall_mem_singleton.2 (Json.proper_nat _))
  have hhttp : Json.Proper (ofHttp s.http) := by
    refine .object ?_
    simp only [List.forall_mem_cons]
    exact ⟨Json.proper_nat _, hoptional Json.proper_nat, hoptional fun _ => .string _, .bool _,
      List.forall_mem_nil _⟩
  refine .object ?_
  simp only [List.forall_mem_cons]
  exact ⟨hbuffer, hsource, hhttp, List.forall_mem_nil _⟩

/-- **All fields are read back**, if the settings are usable. -/
theorem ofParsed_document {s : Settings} (hrange : s.InRange) (valid : s.validate = .ok s) :
    ofParsed (some (document s)) = .ok s := by
  obtain ⟨members, hdocument, hlays⟩ := lays_document hrange
  rw [ofParsed, Option.bind_some, ofDocument?, hdocument, hlays.readRecord,
    Overlay.onto_whole hrange]
  exact valid

/-- The bytes of a text are read as the text. -/
theorem ofFile_toUTF8 (text : String) : ofFile (some text.toUTF8.data.toList) = ofText text := by
  have hbytes := Text.Utf8.toUTF8_ofList text.toList
  rw [String.ofList_toList] at hbytes
  rw [ofFile, ofBytes, ofText, Json.ofBytes?, Json.ofString?, hbytes, Text.Utf8.decode_encode]
  rfl

/-! ## What was read -/

/-- A field keeps what its values cannot break. -/
theorem keeps_of {σ α : Type} {P : σ → Prop} {name : String} {read : Json → Option α}
    {put : α → σ → σ} (h : ∀ v a record, read v = some a → P record → P (put a record)) :
    ∀ v before after, P before → (Field.of name read put).set v before = some after → P after := by
  intro v before after hbefore hset
  obtain ⟨a, hread, rfl⟩ := Option.map_eq_some_iff.1 hset
  exact h v a before hread hbefore

theorem nat?_lt {limit n : Nat} {v : Json} (h : Json.nat? limit v = some n) : n < limit := by
  cases v with
  | number digits => exact of_decide_eq_true (Option.filter_eq_some_iff.1 h).2
  | null | bool | string | array | object => exact absurd h.symm (Option.some_ne_none n)

theorem read_of_optional? {α : Type} {read : Json → Option α} {v : Json} {a : α}
    (h : Json.optional? read v = some (some a)) : read v = some a := by
  by_cases hnull : v = .null
  · subst hnull
    exact absurd (Option.some.inj h).symm (Option.some_ne_none a)
  · rw [Json.optional?.eq_2 _ _ hnull] at h
    obtain ⟨b, hread, hb⟩ := Option.map_eq_some_iff.1 h
    exact hread.trans hb

theorem inRange_buffer {v : Json} {s : BufferSettings}
    (h : readRecord bufferFields .standard v = some s) : s.InRange := by
  refine readRecord_induction h ⟨by decide, by decide, by decide, by decide⟩ ?_
  simp only [bufferFields, List.forall_mem_cons]
  exact ⟨keeps_of fun _ _ _ hread hrange => { hrange with blockShift := nat?_lt hread },
    keeps_of fun _ _ _ hread hrange => { hrange with maxLookahead := nat?_lt hread },
    keeps_of fun _ _ _ hread hrange => { hrange with maxCacheBytes := nat?_lt hread },
    keeps_of fun _ _ _ hread hrange => { hrange with pinnedBlocks := nat?_lt hread },
    List.forall_mem_nil _⟩

theorem inRange_source {v : Json} {s : SourceSettings}
    (h : readRecord sourceFields .standard v = some s) : s.InRange := by
  refine readRecord_induction h ⟨by decide⟩ (List.forall_mem_singleton.2 ?_)
  exact keeps_of fun _ _ _ hread _ => ⟨nat?_lt hread⟩

theorem inRange_http {v : Json} {s : HttpSettings}
    (h : readRecord httpFields .standard v = some s) : s.InRange := by
  refine readRecord_induction h ⟨by decide, nofun⟩ ?_
  simp only [httpFields, List.forall_mem_cons]
  refine ⟨keeps_of fun _ _ _ hread hrange => { hrange with connectTimeoutSecs := nat?_lt hread },
    keeps_of fun v secs _ hread hrange => { hrange with requestTimeoutSecs := ?_ },
    keeps_of fun _ _ _ _ hrange => { hrange with },
    keeps_of fun _ _ _ _ hrange => { hrange with }, List.forall_mem_nil _⟩
  rintro n rfl
  exact nat?_lt (read_of_optional? hread)

/-- **Settings that were read** have numbers of the right width. -/
theorem inRange_document {v : Json} {s : Settings} (h : ofDocument? v = some s) : s.InRange := by
  refine readRecord_induction h ?_ ?_
  · exact ⟨⟨by decide, by decide, by decide, by decide⟩, ⟨by decide⟩, ⟨by decide, nofun⟩⟩
  · simp only [settingsFields, List.forall_mem_cons]
    exact ⟨keeps_of fun _ _ _ hread hrange => { hrange with buffer := inRange_buffer hread },
      keeps_of fun _ _ _ hread hrange => { hrange with source := inRange_source hread },
      keeps_of fun _ _ _ hread hrange => { hrange with http := inRange_http hread },
      List.forall_mem_nil _⟩

theorem ofParsed_eq_ok_iff {value : Option Json} {s : Settings} :
    ofParsed value = .ok s ↔
      ∃ v, value = some v ∧ ofDocument? v = some s ∧ s.validate = .ok s := by
  constructor
  · intro h
    cases value with
    | none => cases h
    | some v =>
      rw [ofParsed, Option.bind_some] at h
      cases hread : ofDocument? v with
      | none =>
        rw [hread] at h
        cases h
      | some t =>
        rw [hread] at h
        obtain ⟨rfl, hfault⟩ := Settings.validate_eq_ok_iff.1 h
        exact ⟨v, rfl, hread, h⟩
  · rintro ⟨v, rfl, hread, valid⟩
    rw [ofParsed, Option.bind_some, hread]
    exact valid

/-- **Settings survive being written**, compactly or on indented lines, and read from the text or
from a file of its bytes. **What was read is usable**: it passes the check once more, and neither
a cache nor a buffer nor a source of it fails. -/
theorem settings_round_trip :
    (∀ s : Settings, s.InRange → s.validate = .ok s → ∀ text,
      text = Json.compact (document s) ∨ text = Json.pretty (document s) →
        ofText text = .ok s ∧ ofFile (some text.toUTF8.data.toList) = .ok s) ∧
      ∀ s : Settings, ((∃ text, ofText text = .ok s) ∨ ∃ file, ofFile file = .ok s) →
        s.InRange ∧ s.validate = .ok s ∧
          (∀ label, ∃ cache,
            Cache.new label s.buffer.blockShift s.buffer.maxCacheBytes = .ok cache) ∧
          (∀ url, ∃ buffer, Buffer.new url s.buffer = .ok buffer) ∧
          ∀ url, ∃ source, RemoteSource.new url s = .ok source := by
  constructor
  · intro s hrange valid text htext
    have hdocument : Json.Document (document s) (Json.text text) := by
      rcases htext with rfl | rfl
      · exact (proper_document s).document_compact
      · exact (proper_document s).document_pretty
    have hread : ofText text = .ok s :=
      (ofText_of_document hdocument).trans (ofParsed_document hrange valid)
    exact ⟨hread, (ofFile_toUTF8 text).trans hread⟩
  · intro s hread
    obtain ⟨value, hvalue⟩ : ∃ value, ofParsed value = .ok s := by
      rcases hread with ⟨text, htext⟩ | ⟨_ | bytes, hfile⟩
      · exact ⟨_, htext⟩
      · cases hfile
      · exact ⟨_, hfile⟩
    obtain ⟨v, -, hdocument, valid⟩ := ofParsed_eq_ok_iff.1 hvalue
    refine ⟨inRange_document hdocument, valid, fun label => ?_, fun url => ?_, fun url => ?_⟩
    -- The cache checks once more what was checked, and nothing else can fail.
    · exact ⟨_, (Buffer.cache_of_validate label valid).2⟩
    · obtain ⟨cache, -, hnew⟩ := Buffer.new_of_validate url valid
      exact ⟨_, hnew⟩
    · obtain ⟨cache, -, hnew⟩ := Buffer.new_of_validate url valid
      exact ⟨_, by rw [RemoteSource.new, hnew]; rfl⟩

/-- An agent with marks and control characters in its name, and a deadline. -/
def agentSettings : Settings :=
  { Settings.lowMemory with
    http :=
      { HttpSettings.standard with
        requestTimeoutSecs := some 0, userAgent := some "a\"b\\c\n\u0001é" } }

theorem settings_round_trip_agent :
    agentSettings.InRange ∧ agentSettings.validate = .ok agentSettings ∧
      ofText (Json.pretty (document agentSettings)) = .ok agentSettings ∧
      ∀ url, ∃ source, RemoteSource.new url agentSettings = .ok source := by
  have hrange : agentSettings.InRange :=
    ⟨⟨by decide, by decide, by decide, by decide⟩, ⟨by decide⟩, by decide,
      fun _ h => Option.some.inj h ▸ by decide⟩
  have hread := (settings_round_trip.1 agentSettings hrange rfl _ (.inr rfl)).1
  exact ⟨hrange, rfl, hread, (settings_round_trip.2 agentSettings (.inl ⟨_, hread⟩)).2.2.2.2⟩

end Config

end ReadAhead
