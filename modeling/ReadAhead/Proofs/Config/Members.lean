/-
Records are read from their members in any order. A member whose name the table does not know
is passed over, and the others each change their own field, so that it does not matter which of
them comes first (`Table.Commutes`). What is read is therefore what the fields would be set to
one by one in the order of the table (`readRecord_of_carries`).

A record that was read had no field twice and no field that could not be read, wherever in the
members it stood (`readRecord_sound`).
-/
import ReadAhead.Config.Record
import ReadAhead.Proofs.Text.Utf8
import Mathlib.Data.List.Nodup

set_option autoImplicit false

namespace ReadAhead.Config

open Text (Utf8.Spots)

/-- A name and a value, as an object has them. -/
abbrev Member := Utf8.Spots × Json

/-! ## Names -/

theorem string?_eq_some_iff {spots : Utf8.Spots} {name : String} :
    Json.string? spots = some name ↔ spots = Json.text name := by
  simp only [Json.string?, Option.map_eq_some_iff, Text.Utf8.text?_eq_some_iff, Json.text]
  constructor
  · rintro ⟨cs, rfl, rfl⟩
    rw [String.toList_ofList]
  · rintro rfl
    exact ⟨name.toList, rfl, String.ofList_toList⟩

theorem string?_text (name : String) : Json.string? (Json.text name) = some name :=
  string?_eq_some_iff.2 rfl

theorem text_inj {first second : String} : Json.text first = Json.text second ↔ first = second := by
  rw [← string?_eq_some_iff, string?_text, Option.some.injEq]

section

variable {σ : Type} {fields : List (Field σ)}

theorem Field.find?_eq_some {field : Field σ} {name : String}
    (h : Field.find? fields name = some field) : field ∈ fields ∧ field.name = name := by
  rw [Field.find?] at h
  exact ⟨List.mem_of_find?_eq_some h, by simpa using List.find?_some h⟩

/-- A field is found by its name, if no other one has it. -/
theorem Field.find?_name (distinct : (fields.map (·.name)).Nodup) {field : Field σ}
    (h : field ∈ fields) : Field.find? fields field.name = some field := by
  cases hfound : Field.find? fields field.name with
  | none =>
    have hall := List.find?_eq_none.1 hfound field h
    exact absurd (beq_self_eq_true _) hall
  | some other =>
    obtain ⟨hother, hname⟩ := Field.find?_eq_some hfound
    exact congrArg some (List.inj_on_of_nodup_map distinct hother h hname)

/-- No field has a name that no field has. -/
theorem Field.find?_eq_none {name : String} (h : name ∉ fields.map (·.name)) :
    Field.find? fields name = none := by
  refine List.find?_eq_none.2 fun field hin hname => h ?_
  exact List.mem_map.2 ⟨field, hin, eq_of_beq hname⟩

/-! ## One member at a time -/

/-- The field that a member sets, if the table knows it. -/
def field? (fields : List (Field σ)) (member : Member) : Option (Field σ) :=
  (Json.string? member.1).bind (Field.find? fields)

/-- What one member does to a record: nothing, if the table does not know it. -/
def setOne (fields : List (Field σ)) (record : σ) (member : Member) : Option σ :=
  match field? fields member with
  | none => some record
  | some field => field.set member.2 record

/-- The names that the table knows, in the order of the members. -/
def knownNames (fields : List (Field σ)) (members : List Member) : List String :=
  members.filterMap fun member => (field? fields member).map (·.name)

/-- All names are strings, and those that the table knows are different ones, and new. -/
def Distinct (fields : List (Field σ)) (met : List String) (members : List Member) : Prop :=
  (∀ member ∈ members, ∃ name, member.1 = Json.text name) ∧
    (knownNames fields members).Nodup ∧ ∀ name ∈ knownNames fields members, name ∉ met

/-! ### A member the table knows, and one it does not -/

section

variable {member : Member} {name : String} (hname : Json.string? member.1 = some name)

include hname

theorem field?_eq : field? fields member = Field.find? fields name := by
  rw [field?, hname, Option.bind_some]

section

variable (hfound : Field.find? fields name = none)

include hfound

theorem setMember_of_unknown (state : σ × List String) :
    setMember fields state member = some state := by
  simp [setMember, hname, hfound]

theorem setOne_of_unknown (record : σ) : setOne fields record member = some record := by
  rw [setOne, field?_eq hname, hfound]

theorem distinct_of_unknown (met : List String) (rest : List Member) :
    Distinct fields met (member :: rest) ↔ Distinct fields met rest := by
  have hknown : knownNames fields (member :: rest) = knownNames fields rest := by
    rw [knownNames, List.filterMap_cons, field?_eq hname, hfound]
    rfl
  have hthis : ∃ name, member.1 = Json.text name := ⟨name, string?_eq_some_iff.1 hname⟩
  rw [Distinct, Distinct, hknown, List.forall_mem_cons, and_iff_right hthis]

end

section

variable {field : Field σ} (hfound : Field.find? fields name = some field)

include hfound

theorem setMember_of_known (record : σ) (met : List String) :
    setMember fields (record, met) member =
      if name ∈ met then none else (field.set member.2 record).map (·, name :: met) := by
  by_cases hmet : name ∈ met
  · simp [setMember, hname, hfound, hmet]
  · simp only [setMember, hname, hfound, Option.bind_eq_bind, Option.bind_some,
      List.contains_iff_mem, hmet, if_false]
    cases field.set member.2 record <;> rfl

theorem setOne_of_known (record : σ) :
    setOne fields record member = field.set member.2 record := by
  rw [setOne, field?_eq hname, hfound]

theorem knownNames_of_known (rest : List Member) :
    knownNames fields (member :: rest) = name :: knownNames fields rest := by
  rw [knownNames, List.filterMap_cons, field?_eq hname, hfound, ← (Field.find?_eq_some hfound).2]
  rfl

theorem distinct_of_known (met : List String) (rest : List Member) :
    Distinct fields met (member :: rest) ↔ name ∉ met ∧ Distinct fields (name :: met) rest := by
  have hthis : ∃ name, member.1 = Json.text name := ⟨name, string?_eq_some_iff.1 hname⟩
  rw [Distinct, Distinct, knownNames_of_known hname hfound, List.forall_mem_cons,
    and_iff_right hthis, List.nodup_cons, List.forall_mem_cons]
  simp only [List.mem_cons, not_or]
  constructor
  · rintro ⟨hnames, ⟨hother, hnodup⟩, hmet, hnew⟩
    exact ⟨hmet, hnames, hnodup, fun other hin => ⟨fun heq => hother (heq ▸ hin), hnew other hin⟩⟩
  · rintro ⟨hmet, hnames, hnodup, hnew⟩
    exact ⟨hnames, ⟨fun hin => (hnew _ hin).1 rfl, hnodup⟩, hmet,
      fun other hin => (hnew other hin).2⟩

end

end

/-- **Reading goes from member to member**, and fails where a name is no string or comes again. -/
theorem foldlM_setMember_iff {members : List Member} {record result : σ} {met : List String} :
    (members.foldlM (setMember fields) (record, met)).map Prod.fst = some result ↔
      Distinct fields met members ∧ members.foldlM (setOne fields) record = some result := by
  -- The names met so far are part of the state: each member that is known adds its own.
  induction members generalizing record met with
  | nil =>
    rw [and_iff_right ⟨nofun, List.nodup_nil, nofun⟩]
    rfl
  | cons member rest ih =>
    rw [List.foldlM_cons, List.foldlM_cons]
    cases hname : Json.string? member.1 with
    | none =>
      have hfails : setMember fields (record, met) member = none := by simp [setMember, hname]
      rw [hfails]
      refine iff_of_false (Option.some_ne_none result).symm ?_
      rintro ⟨⟨hnames, -⟩, -⟩
      obtain ⟨name, heq⟩ := hnames member List.mem_cons_self
      exact absurd (hname.symm.trans (heq ▸ string?_text name)) (Option.some_ne_none name).symm
    | some name =>
      cases hfound : Field.find? fields name with
      | none =>
        rw [setMember_of_unknown hname hfound, setOne_of_unknown hname hfound,
          distinct_of_unknown hname hfound]
        exact ih
      | some field =>
        rw [setMember_of_known hname hfound, setOne_of_known hname hfound,
          distinct_of_known hname hfound]
        -- A name met before ends the reading, whatever its value is.
        by_cases hmet : name ∈ met
        · rw [if_pos hmet]
          exact iff_of_false (Option.some_ne_none result).symm fun h => h.1.1 hmet
        · rw [if_neg hmet, and_iff_right hmet]
          cases field.set member.2 record with
          | none => exact iff_of_false (Option.some_ne_none result).symm fun h =>
              absurd h.2.symm (Option.some_ne_none result)
          | some next => exact ih

theorem readRecord_object_iff {defaults result : σ} {members : List Member} :
    readRecord fields defaults (.object members) = some result ↔
      Distinct fields [] members ∧ members.foldlM (setOne fields) defaults = some result :=
  foldlM_setMember_iff

/-! ## The order of the members -/

/-- Setting one field and then another is setting them the other way round. -/
def Commute (first second : Field σ) : Prop :=
  ∀ v w record, (first.set v record).bind (second.set w) = (second.set w record).bind (first.set v)

/-- Fields that put their values in different places commute. -/
theorem commute_of {α β : Type} {name other : String} {read : Json → Option α}
    {read' : Json → Option β} {put : α → σ → σ} {put' : β → σ → σ}
    (h : ∀ a b record, put' b (put a record) = put a (put' b record)) :
    Commute (.of name read put) (.of other read' put') := by
  intro v w record
  simp only [Field.of]
  cases read v <;> cases read' w <;> simp [h]

/-- **A table of fields**: the names are different, and so are the places. -/
structure IsTable (fields : List (Field σ)) : Prop where
  distinct : (fields.map (·.name)).Nodup
  commute : ∀ first ∈ fields, ∀ second ∈ fields, first.name ≠ second.name → Commute first second

theorem setOne_comm (htable : IsTable fields) {first second : Member}
    (h : ∀ f g, field? fields first = some f → field? fields second = some g → f.name ≠ g.name)
    (record : σ) : (setOne fields record first).bind (setOne fields · second) =
      (setOne fields record second).bind (setOne fields · first) := by
  have hknown : ∀ {member : Member} {field : Field σ}, field? fields member = some field →
      field ∈ fields := by
    intro member field hfield
    obtain ⟨name, -, hfound⟩ := Option.bind_eq_some_iff.1 hfield
    exact (Field.find?_eq_some hfound).1
  unfold setOne
  cases hfirst : field? fields first with
  | none => simp
  | some f =>
    cases hsecond : field? fields second with
    | none => simp
    | some g =>
      exact htable.commute f (hknown hfirst) g (hknown hsecond) (h f g hfirst hsecond) _ _ record

/-- **Members may come in any order.** -/
theorem foldlM_setOne_perm (htable : IsTable fields) {members others : List Member}
    (h : members.Perm others) (hnodup : (knownNames fields members).Nodup) (record : σ) :
    members.foldlM (setOne fields) record = others.foldlM (setOne fields) record := by
  induction h generalizing record with
  | nil => rfl
  | @cons member rest others _ ih =>
    have hrest : (knownNames fields rest).Nodup :=
      hnodup.sublist ((List.sublist_cons_self member rest).filterMap _)
    rw [List.foldlM_cons, List.foldlM_cons]
    exact congrArg (Option.bind _) (funext fun next => ih hrest next)
  | swap first second rest =>
    -- Both would be one name twice if they were known by the same one.
    have hother : ∀ f g, field? fields second = some f → field? fields first = some g →
        f.name ≠ g.name := by
      intro f g hsecond hfirst hsame
      simp [knownNames, hsecond, hfirst, hsame] at hnodup
    simp only [List.foldlM_cons, Option.bind_eq_bind, ← Option.bind_assoc]
    rw [setOne_comm htable hother record]
  | @trans members middle others hfirst _ ih ih' =>
    -- The names are as different in between as they were before.
    have hmiddle : (knownNames fields middle).Nodup := (hfirst.filterMap _).nodup_iff.1 hnodup
    exact (ih hnodup record).trans (ih' hmiddle record)

/-- Neither what is read nor whether it can be read depends on the order. -/
theorem readRecord_perm (htable : IsTable fields) {members others : List Member}
    (h : members.Perm others) (defaults : σ) :
    readRecord fields defaults (.object members) =
      readRecord fields defaults (.object others) := by
  have hknown : (knownNames fields members).Perm (knownNames fields others) := h.filterMap _
  have hdistinct : Distinct fields [] members ↔ Distinct fields [] others :=
    and_congr (forall_congr' fun _ => imp_congr_left h.mem_iff)
      (and_congr hknown.nodup_iff (forall_congr' fun _ => imp_congr_left hknown.mem_iff))
  refine Option.ext fun result => ?_
  rw [readRecord_object_iff, readRecord_object_iff, ← hdistinct]
  refine and_congr_right fun hdistinct => ?_
  rw [foldlM_setOne_perm htable h hdistinct.2.1]

/-! ## Members that the table does not know -/

theorem readRecord_stranger {name : String} (h : name ∉ fields.map (·.name)) (value : Json)
    (members : List Member) (defaults : σ) :
    readRecord fields defaults (.object ((Json.text name, value) :: members)) =
      readRecord fields defaults (.object members) := by
  rw [readRecord, readRecord, List.foldlM_cons,
    setMember_of_unknown (string?_text name) (Field.find?_eq_none h)]
  rfl

section

variable {keep : Member → Bool} {members : List Member}
  (h : ∀ member ∈ members, keep member = false → field? fields member = none)

include h

theorem knownNames_filter :
    knownNames fields (members.filter keep) = knownNames fields members := by
  rw [knownNames, List.filterMap_filter]
  refine List.filterMap_congr fun member hin => ?_
  by_cases hkeep : keep member = true
  · rw [if_pos hkeep]
  · rw [if_neg hkeep, h member hin (by simpa using hkeep)]
    rfl

/-- They may as well be left out. -/
theorem foldlM_setOne_filter (record : σ) :
    (members.filter keep).foldlM (setOne fields) record =
      members.foldlM (setOne fields) record := by
  induction members generalizing record with
  | nil => rfl
  | cons member rest ih =>
    have hrest := ih fun other hin => h other (List.mem_cons_of_mem _ hin)
    by_cases hkeep : keep member = true
    · rw [List.filter_cons_of_pos hkeep, List.foldlM_cons, List.foldlM_cons]
      exact congrArg (Option.bind _) (funext hrest)
    · have hunknown := h member List.mem_cons_self (by simpa using hkeep)
      have hnothing : setOne fields record member = some record := by rw [setOne, hunknown]
      rw [List.filter_cons_of_neg hkeep, List.foldlM_cons, hnothing]
      exact hrest record

end

end

/-! ## What members carry -/

/-- The members of the fields that have a value. -/
def membersOf (given : List (String × Option Json)) : List Member :=
  given.filterMap fun field => field.2.map (Json.text field.1, ·)

/-- **Members carry these fields**: those of them that have a value, each once, in any order and
among any others. -/
structure Carries (given : List (String × Option Json)) (members : List Member) : Prop where
  names : ∀ member ∈ members, ∃ name, member.1 = Json.text name
  known : (members.filter fun member => member.1 ∈ given.map fun field => Json.text field.1).Perm
    (membersOf given)

section

variable {given : List (String × Option Json)} {members others : List Member}

/-- The fields alone, in their own order. -/
theorem Carries.alone (given : List (String × Option Json)) : Carries given (membersOf given) where
  names := by
    intro member hin
    obtain ⟨field, -, hmember⟩ := List.mem_filterMap.1 hin
    obtain ⟨value, -, rfl⟩ := Option.map_eq_some_iff.1 hmember
    exact ⟨field.1, rfl⟩
  known := by
    rw [List.filter_eq_self.2]
    intro member hin
    obtain ⟨field, hfield, hmember⟩ := List.mem_filterMap.1 hin
    obtain ⟨value, -, rfl⟩ := Option.map_eq_some_iff.1 hmember
    exact decide_eq_true (List.mem_map_of_mem hfield)

theorem Carries.perm (h : Carries given members) (hperm : others.Perm members) :
    Carries given others where
  names := fun member hin => h.names member (hperm.mem_iff.1 hin)
  known := (hperm.filter _).trans h.known

theorem Carries.stranger (h : Carries given members) {name : String}
    (hname : name ∉ given.map Prod.fst) (value : Json) :
    Carries given ((Json.text name, value) :: members) where
  names := List.forall_mem_cons.2 ⟨⟨name, rfl⟩, h.names⟩
  known := by
    rw [List.filter_cons_of_neg]
    · exact h.known
    · rw [decide_eq_true_iff]
      intro hin
      obtain ⟨field, hfield, hsame⟩ := List.mem_map.1 hin
      exact hname (List.mem_map.2 ⟨field, hfield, text_inj.1 hsame⟩)

end

section

variable {σ : Type} {fields : List (Field σ)}

/-- A field with its value, or without one. -/
def give (record : σ) (entry : Field σ × Option Json) : Option σ :=
  match entry.2 with
  | none => some record
  | some value => entry.1.set value record

/-- The members of the fields that have a value, in the order of the table. -/
def carried (table : List (Field σ × Option Json)) : List Member :=
  table.filterMap fun entry => entry.2.map (Json.text entry.1.name, ·)

section

variable {table : List (Field σ × Option Json)}

theorem foldlM_carried (htable : IsTable fields) (hfields : ∀ entry ∈ table, entry.1 ∈ fields)
    (record : σ) : (carried table).foldlM (setOne fields) record = table.foldlM give record := by
  induction table generalizing record with
  | nil => rfl
  | cons entry rest ih =>
    have hrest := ih fun other hin => hfields other (List.mem_cons_of_mem _ hin)
    obtain ⟨field, value⟩ := entry
    have hfound := Field.find?_name htable.distinct (hfields _ List.mem_cons_self)
    cases value with
    | none => exact hrest record
    | some value =>
      rw [carried, List.filterMap_cons]
      simp only [Option.map_some, List.foldlM_cons]
      rw [setOne_of_known (string?_text _) hfound]
      exact congrArg (Option.bind _) (funext hrest)

theorem knownNames_carried (htable : IsTable fields) (hfields : ∀ entry ∈ table, entry.1 ∈ fields) :
    List.Sublist (knownNames fields (carried table)) (table.map (·.1.name)) := by
  induction table with
  | nil => exact List.Sublist.refl _
  | cons entry rest ih =>
    have hrest := ih fun other hin => hfields other (List.mem_cons_of_mem _ hin)
    obtain ⟨field, value⟩ := entry
    have hfound := Field.find?_name htable.distinct (hfields _ List.mem_cons_self)
    cases value with
    | none => exact hrest.cons field.name
    | some value =>
      have hfirst : knownNames fields (carried ((field, some value) :: rest)) =
          field.name :: knownNames fields (carried rest) :=
        knownNames_of_known (string?_text _) hfound (carried rest)
      rw [hfirst]
      exact hrest.cons_cons field.name

variable (table) in
/-- **A record is what the fields that are given make of the defaults**, one after another in the
order of the table. -/
theorem readRecord_of_carries (htable : IsTable (table.map Prod.fst)) {members : List Member}
    (h : Carries (table.map fun entry => (entry.1.name, entry.2)) members) {defaults result : σ}
    (hgive : table.foldlM give defaults = some result) :
    readRecord (table.map Prod.fst) defaults (.object members) = some result := by
  let fields := table.map Prod.fst
  have hfields : ∀ entry ∈ table, entry.1 ∈ fields := fun entry hin => List.mem_map_of_mem hin
  let keep : Member → Bool := fun member =>
    member.1 ∈ table.map fun entry => Json.text entry.1.name
  obtain ⟨hnames, hknown⟩ := h
  rw [membersOf, List.map_map, List.filterMap_map] at hknown
  change (members.filter keep).Perm (carried table) at hknown
  -- What is not kept has a name that no field of the table has.
  have hunknown : ∀ member ∈ members, keep member = false → field? fields member = none := by
    intro member hin hkeep
    obtain ⟨name, hname⟩ := hnames member hin
    rw [field?_eq (string?_eq_some_iff.2 hname)]
    cases hfound : Field.find? fields name with
    | none => rfl
    | some field =>
      obtain ⟨hfield, rfl⟩ := Field.find?_eq_some hfound
      obtain ⟨entry, hentry, rfl⟩ := List.mem_map.1 hfield
      exact absurd (List.mem_map.2 ⟨entry, hentry, hname.symm⟩) (of_decide_eq_false hkeep)
  have hnodup : (knownNames fields (members.filter keep)).Nodup := by
    have hperm := hknown.filterMap fun member => (field? fields member).map (·.name)
    have hdistinct := htable.distinct
    rw [List.map_map] at hdistinct
    exact hperm.nodup_iff.2 ((knownNames_carried htable hfields).nodup hdistinct)
  refine readRecord_object_iff.2 ⟨⟨hnames, ?_, nofun⟩, ?_⟩
  · rwa [knownNames_filter hunknown] at hnodup
  · rw [← foldlM_setOne_filter hunknown, foldlM_setOne_perm htable hknown hnodup,
      foldlM_carried htable hfields]
    exact hgive

end

/-! ## What was read -/

/-- A name of the table is known as often as it is there. -/
theorem count_knownNames {name : String} {field : Field σ}
    (hfound : Field.find? fields name = some field) (members : List Member) :
    (members.map Prod.fst).count (Json.text name) = (knownNames fields members).count name := by
  induction members with
  | nil => rfl
  | cons member rest ih =>
    rw [List.map_cons, List.count_cons, ih]
    by_cases hsame : member.1 = Json.text name
    · rw [knownNames_of_known (string?_eq_some_iff.2 hsame) hfound, List.count_cons_self, hsame,
        if_pos (beq_self_eq_true _)]
    · rw [if_neg (by simpa using hsame), Nat.add_zero, knownNames, knownNames, List.filterMap_cons]
      cases hfield : field? fields member with
      | none => rfl
      | some other =>
        -- It is known by another name.
        have hother : other.name ≠ name := by
          rintro rfl
          obtain ⟨found, hname, hother⟩ := Option.bind_eq_some_iff.1 hfield
          obtain ⟨-, rfl⟩ := Field.find?_eq_some hother
          exact hsame (string?_eq_some_iff.1 hname)
        exact (List.count_cons_of_ne hother).symm

theorem exists_of_foldlM {α β : Type} {f : β → α → Option β} {l : List α} {b result : β}
    (h : l.foldlM f b = some result) {a : α} (ha : a ∈ l) :
    ∃ before after, f before a = some after := by
  induction l generalizing b with
  | nil => exact absurd ha List.not_mem_nil
  | cons first rest ih =>
    rw [List.foldlM_cons] at h
    obtain ⟨next, hfirst, hrest⟩ := Option.bind_eq_some_iff.1 h
    rcases List.mem_cons.1 ha with rfl | hin
    · exact ⟨b, next, hfirst⟩
    · exact ih hrest hin

/-- **Members that were read** have no name of the table twice, and each of them a value that
its field can have. -/
theorem readRecord_sound {defaults result : σ} {members : List Member}
    (h : readRecord fields defaults (.object members) = some result) {name : String}
    {field : Field σ} (hfound : Field.find? fields name = some field) :
    (members.map Prod.fst).count (Json.text name) ≤ 1 ∧
      ∀ value, (Json.text name, value) ∈ members →
        ∃ before after, field.set value before = some after := by
  obtain ⟨⟨-, hnodup, -⟩, hfold⟩ := readRecord_object_iff.1 h
  constructor
  · rw [count_knownNames hfound]
    exact List.nodup_iff_count_le_one.1 hnodup name
  · intro value hin
    obtain ⟨before, after, hset⟩ := exists_of_foldlM hfold hin
    rw [setOne_of_known (string?_text name) hfound] at hset
    exact ⟨before, after, hset⟩

section

variable {P : σ → Prop}

theorem foldlM_setOne_induction
    (step : ∀ field ∈ fields, ∀ v before after, P before → field.set v before = some after →
      P after) {members : List Member} {record result : σ} (start : P record)
    (h : members.foldlM (setOne fields) record = some result) : P result := by
  induction members generalizing record with
  | nil => exact Option.some.inj h ▸ start
  | cons member rest ih =>
    rw [List.foldlM_cons] at h
    obtain ⟨next, hfirst, hrest⟩ := Option.bind_eq_some_iff.1 h
    refine ih ?_ hrest
    cases hfield : field? fields member with
    | none =>
      rw [setOne, hfield] at hfirst
      exact Option.some.inj hfirst ▸ start
    | some field =>
      rw [setOne, hfield] at hfirst
      obtain ⟨name, -, hfound⟩ := Option.bind_eq_some_iff.1 hfield
      exact step field (Field.find?_eq_some hfound).1 _ _ _ start hfirst

theorem setItems_induction
    (step : ∀ field ∈ fields, ∀ v before after, P before → field.set v before = some after →
      P after) {items : List Json} {record result : σ} (start : P record)
    (h : setItems fields items record = some result) : P result := by
  induction fields generalizing items record with
  | nil =>
    cases items with
    | nil => exact Option.some.inj h ▸ start
    | cons => exact absurd h.symm (Option.some_ne_none result)
  | cons field fields ih =>
    cases items with
    | nil => exact Option.some.inj h ▸ start
    | cons item items =>
      rw [setItems] at h
      obtain ⟨next, hfirst, hrest⟩ := Option.bind_eq_some_iff.1 h
      have hnext := step field List.mem_cons_self _ _ _ start hfirst
      exact ih (fun other hin => step other (List.mem_cons_of_mem _ hin)) hnext hrest

/-- **Whatever the defaults have and every field keeps** holds of a record that was read. -/
theorem readRecord_induction {defaults result : σ} {value : Json}
    (h : readRecord fields defaults value = some result) (start : P defaults)
    (step : ∀ field ∈ fields, ∀ v before after, P before → field.set v before = some after →
      P after) : P result := by
  cases value with
  | object members => exact foldlM_setOne_induction step start (readRecord_object_iff.1 h).2
  | array items => exact setItems_induction step start h
  | null | bool | number | string => exact absurd h.symm (Option.some_ne_none result)

end

end

end ReadAhead.Config
