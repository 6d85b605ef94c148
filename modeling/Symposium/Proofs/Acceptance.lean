import Symposium.Edit
import Symposium.Proofs.Checks
import Symposium.Proofs.Members
import Symposium.Proofs.Readings

/-!
# Records that are accepted

What the readers of proposals, edits and conferences ask of the members is said once, by the
structures `IsValid`. Main statements: what is read as a proposal or as an edit is valid; a valid
proposal and a valid conference are read again from their own records.
-/

namespace Symposium

/-- Whether a text has at least and at most so many characters. -/
def Text.HasLength (least most : Nat) (s : String) : Prop :=
  least ≤ s.length ∧ s.length ≤ most

/-- Whether no text of a talk is too short or too long. -/
structure Talk.IsValid (talk : Talk) : Prop where
  title : Text.HasLength 3 100 talk.title
  description : Text.HasLength 3 1000 talk.description
  speakerName : Text.HasLength 3 100 talk.speakerName
  speakerTitle : Text.HasLength 3 100 talk.speakerTitle
  targetAudience : Text.HasLength 3 255 talk.targetAudience
  prerequisites : ∀ s ∈ talk.prerequisites, s.length ≤ 255

/-- Whether a proposal has a valid talk, a seat, and a window whose ends have an offset. -/
structure Proposal.IsValid (p : Proposal) : Prop where
  talk : p.talk.IsValid
  seats : 0 < p.seats
  startsAt : p.window.startsAt.IsZoned
  endsAt : p.window.endsAt.IsZoned

/-- Whether every member of an edit that was sent may stand in a conference. -/
structure Edit.IsValid (edit : Edit) : Prop where
  title : ∀ s ∈ edit.title, Text.HasLength 3 100 s
  description : ∀ s ∈ edit.description, Text.HasLength 3 1000 s
  speakerName : ∀ s ∈ edit.speakerName, Text.HasLength 3 100 s
  speakerTitle : ∀ s ∈ edit.speakerTitle, Text.HasLength 3 100 s
  targetAudience : ∀ s ∈ edit.targetAudience, Text.HasLength 3 255 s
  prerequisites : ∀ sent ∈ edit.prerequisites, ∀ s ∈ sent, s.length ≤ 255
  startsAt : ∀ t ∈ edit.startsAt, t.IsZoned
  endsAt : ∀ t ∈ edit.endsAt, t.IsZoned

/-- Whether a conference has what a proposal has, ends after it starts, and bears such times. -/
structure Conference.IsValid (c : Conference) : Prop where
  talk : c.talk.IsValid
  seats : 0 < c.seats
  ordered : c.window.isOrdered = true
  startsAt : c.window.startsAt.IsZoned
  endsAt : c.window.endsAt.IsZoned
  createdAt : c.createdAt.IsZoned
  updatedAt : c.updatedAt.IsZoned
  deletedAt : ∀ t ∈ c.deletedAt, t.IsZoned

namespace Check

variable {json : Json} {name : String}

/-- What is read as a text between bounds lies between them. -/
lemma hasLength_of_required {least most : Nat} {s : String}
    (h : required json name (boundedText least most) = .fine s) : Text.HasLength least most s := by
  obtain ⟨_, _, hread⟩ := required_eq_fine_iff.1 h
  exact (boundedText_eq_fine_iff.1 hread).2

/-- What is read as a time with an offset has a valid one. -/
lemma isZoned_of_required {t : Timestamp} (h : required json name awareTimestamp = .fine t) :
    t.IsZoned := by
  obtain ⟨_, _, hread⟩ := required_eq_fine_iff.1 h
  exact isZoned_of_awareTimestamp hread

/-- Prerequisites are read as nothing or as a text that is short enough. -/
lemma length_le_of_readPrerequisites {value : Json} {s? : Option String}
    (h : Proposal.readPrerequisites value = .fine s?) : ∀ s ∈ s?, s.length ≤ 255 := by
  intro s hs
  obtain ⟨_, hread⟩ := exists_of_nullable h s hs
  exact (boundedText_eq_fine_iff.1 hread).2.2

/-- A text is read as itself. -/
lemma text_str (s : String) : text (.str s) = .fine s :=
  rfl

/-- A text within the bounds is read as itself. -/
lemma boundedText_str {least most : Nat} {s : String} (h : Text.HasLength least most s) :
    boundedText least most (.str s) = .fine s :=
  boundedText_eq_fine_iff.2 ⟨rfl, h⟩

/-- A positive number is read as itself. -/
lemma positive_int {seats : Nat} (h : 0 < seats) : positive (.int seats) = .fine (seats : Int) := by
  have hpos : (0 : Int) < seats := by omega
  exact positive_eq_fine_iff.2 ⟨rfl, hpos⟩

/-- Prerequisites that are short enough are read back from their record. -/
lemma readPrerequisites_ofText? {s? : Option String} (h : ∀ s ∈ s?, s.length ≤ 255) :
    Proposal.readPrerequisites (Json.ofText? s?) = .fine s? := by
  cases s? with
  | none => rfl
  | some s =>
    have hread : boundedText 0 255 (.str s) = .fine s := boundedText_str ⟨Nat.zero_le _, h s rfl⟩
    exact Checked.map_eq_fine_iff.2 ⟨s, hread, rfl⟩

end Check

namespace Proposal

variable {json : Json} {p : Proposal}

open Check Checked

/-- What the check of proposals accepts is within all its bounds. -/
lemma isValid_of_read (h : read json = .fine p) : p.IsValid := by
  simp only [read, seq_eq_fine_iff, map_eq_fine_iff] at h
  obtain ⟨_, endsAt, ⟨_, startsAt, ⟨_, seats, ⟨_, prerequisites, ⟨_, targetAudience,
    ⟨_, speakerTitle, ⟨_, speakerName, ⟨_, description, ⟨title, htitle, rfl⟩, hdescription, rfl⟩,
    hspeakerName, rfl⟩, hspeakerTitle, rfl⟩, haudience, rfl⟩, hprerequisites, rfl⟩, hseats, rfl⟩,
    hstarts, rfl⟩, hends, rfl⟩ := h
  refine ⟨⟨hasLength_of_required htitle, hasLength_of_required hdescription,
    hasLength_of_required hspeakerName, hasLength_of_required hspeakerTitle,
    hasLength_of_required haudience, ?_⟩, ?_, isZoned_of_required hstarts,
    isZoned_of_required hends⟩
  · show ∀ s ∈ prerequisites, s.length ≤ 255
    rcases optional_eq_fine_iff.1 hprerequisites with ⟨_, rfl⟩ | ⟨value, _, hread⟩
    · exact fun _ hnone => nomatch hnone
    · exact length_le_of_readPrerequisites hread
  · obtain ⟨value, _, hread⟩ := required_eq_fine_iff.1 hseats
    have hpos := (positive_eq_fine_iff.1 hread).2
    show 0 < seats.toNat
    omega

/-- A valid proposal is read again from its own record. -/
lemma read_toJson (valid : p.IsValid) : read p.toJson = .fine p := by
  obtain ⟨talk, hseats, hstarts, hends⟩ := valid
  have htitle := required_of_get? p.toJson "title" rfl (boundedText_str talk.title)
  have hdescription :=
    required_of_get? p.toJson "description" rfl (boundedText_str talk.description)
  have hspeakerName :=
    required_of_get? p.toJson "speaker_name" rfl (boundedText_str talk.speakerName)
  have hspeakerTitle :=
    required_of_get? p.toJson "speaker_title" rfl (boundedText_str talk.speakerTitle)
  have haudience :=
    required_of_get? p.toJson "target_audience" rfl (boundedText_str talk.targetAudience)
  have hprerequisites := optional_of_get? p.toJson "prerequisites" none rfl
    (readPrerequisites_ofText? talk.prerequisites)
  have hseats := required_of_get? p.toJson "seats" rfl (positive_int hseats)
  have hstarts := required_of_get? p.toJson "starts_at" rfl (awareTimestamp_ofTimestamp hstarts)
  have hends := required_of_get? p.toJson "ends_at" rfl (awareTimestamp_ofTimestamp hends)
  simp only [read, readLine, readDescription, readAudience, htitle, hdescription, hspeakerName,
    hspeakerTitle, haudience, hprerequisites, hseats, hstarts, hends]
  rfl

/-- Whether a proposal was read from some value. -/
def IsRead (p : Proposal) : Prop :=
  ∃ json, Failure.ofRecord kind read json = .ok p

/-- A proposal that was read is within all bounds. -/
lemma IsRead.isValid (h : p.IsRead) : p.IsValid := by
  obtain ⟨json, hjson⟩ := h
  exact isValid_of_read (Failure.ofRecord_eq_ok_iff.1 hjson).2

/-- A proposal within all bounds is read back from its record. -/
lemma ofRecord_toJson (valid : p.IsValid) : Failure.ofRecord kind read p.toJson = .ok p :=
  Failure.ofRecord_eq_ok_iff.2 ⟨⟨_, rfl⟩, read_toJson valid⟩

/-- The proposals that are read are the valid ones. -/
theorem isRead_iff_isValid : p.IsRead ↔ p.IsValid :=
  ⟨IsRead.isValid, fun valid => ⟨p.toJson, ofRecord_toJson valid⟩⟩

end Proposal

namespace Edit

variable {json : Json} {name : String}

open Check Checked

/-- A member is present with a value, or it was not sent; null is refused. -/
lemma present_eq_ok_iff {α : Type} {sent? : Option (Option α)} {a? : Option α} :
    present name sent? = .ok a? ↔ sent? = a?.map some := by
  rcases sent? with _ | _ | a
  · cases a? with
    | none => simp [present]
    | some b => simp [present]
  · cases a? with
    | none => simp [present]
    | some b => simp [present]
  · cases a? with
    | none => simp [present]
    | some b => simp [present]

/-- What is left of a member that was sent and is not null was read. -/
lemma exists_of_present {α : Type} {read : Json → Checked α} {sent? : Option (Option α)}
    {a? : Option α} (hsent : sent json name (nullable read) = .fine sent?)
    (hpresent : present name sent? = .ok a?) : ∀ a ∈ a?, ∃ value, read value = .fine a := by
  intro a ha
  have hsome : some a ∈ sent? := by
    rw [present_eq_ok_iff.1 hpresent]
    exact Option.mem_map_of_mem some ha
  obtain ⟨_, hnullable⟩ := exists_of_sent hsent _ hsome
  exact exists_of_nullable hnullable a rfl

/-- A text that was sent and is present lies between its bounds. -/
lemma hasLength_of_present {least most : Nat} {sent? : Option (Option String)}
    {s? : Option String} (hsent : sent json name (nullable (boundedText least most)) = .fine sent?)
    (hpresent : present name sent? = .ok s?) : ∀ s ∈ s?, Text.HasLength least most s := by
  intro s hs
  obtain ⟨_, hread⟩ := exists_of_present hsent hpresent s hs
  exact (boundedText_eq_fine_iff.1 hread).2

/-- A time that was sent and is present has a valid offset. -/
lemma isZoned_of_present {sent? : Option (Option Timestamp)} {t? : Option Timestamp}
    (hsent : sent json name (nullable awareTimestamp) = .fine sent?)
    (hpresent : present name sent? = .ok t?) : ∀ t ∈ t?, t.IsZoned := by
  intro t ht
  obtain ⟨_, hread⟩ := exists_of_present hsent hpresent t ht
  exact isZoned_of_awareTimestamp hread

/-- What the check of edits accepts is within all its bounds. -/
lemma isValid_of_read {edit : Edit} (h : read json = .fine edit) : edit.IsValid := by
  obtain ⟨built, hbuilt, hfault⟩ := andThen_eq_fine_iff.1 h
  simp only [seq_eq_fine_iff, map_eq_fine_iff] at hbuilt
  obtain ⟨_, endsAt, ⟨_, startsAt, ⟨_, prerequisites, ⟨_, targetAudience, ⟨_, speakerTitle,
    ⟨_, speakerName, ⟨_, description, ⟨title, htitle, rfl⟩, hdescription, rfl⟩, hspeakerName, rfl⟩,
    hspeakerTitle, rfl⟩, haudience, rfl⟩, hprerequisites, rfl⟩, hstarts, rfl⟩, hends, rfl⟩ := hbuilt
  -- what was read is then looked at once more: it was not sent, or it is not null
  have hbuild := ofExcept_eq_fine_iff.1 hfault
  simp only [read.build, Failure.bind_eq_ok_iff] at hbuild
  obtain ⟨_, htitle', _, hdescription', _, hspeakerName', _, hspeakerTitle', _, haudience', _,
    hstarts', _, hends', hedit⟩ := hbuild
  cases hedit
  exact {
    title := hasLength_of_present htitle htitle'
    description := hasLength_of_present hdescription hdescription'
    speakerName := hasLength_of_present hspeakerName hspeakerName'
    speakerTitle := hasLength_of_present hspeakerTitle hspeakerTitle'
    targetAudience := hasLength_of_present haudience haudience'
    prerequisites := fun s? hs? => by
      obtain ⟨_, hread⟩ := exists_of_sent hprerequisites s? hs?
      exact length_le_of_readPrerequisites hread
    startsAt := isZoned_of_present hstarts hstarts'
    endsAt := isZoned_of_present hends hends' }

/-- Whether an edit was read from some value. -/
def IsRead (edit : Edit) : Prop :=
  ∃ json, Failure.ofRecord kind read json = .ok edit

/-- What is read as an edit is valid. -/
theorem IsRead.isValid {edit : Edit} (h : edit.IsRead) : edit.IsValid := by
  obtain ⟨json, hjson⟩ := h
  exact isValid_of_read (Failure.ofRecord_eq_ok_iff.1 hjson).2

end Edit

namespace Conference

open Check Checked

variable {c : Conference}

/-- A status is read back from its word. -/
lemma choice_word (status : Status) : choice Status.words (.str status.word) = .fine status := by
  cases status <;> rfl

/-- A valid conference is read again from its own record, whatever the time is. -/
lemma read_toJson (valid : c.IsValid) (now : Timestamp) : read now c.toJson = .fine c := by
  have hprerequisites : nullable text (Json.ofText? c.talk.prerequisites) =
      .fine c.talk.prerequisites := by
    cases c.talk.prerequisites <;> rfl
  have hdeleted : nullable timestamp (Json.ofTimestamp? c.deletedAt) = .fine c.deletedAt := by
    cases hc : c.deletedAt with
    | none => rfl
    | some t =>
      have hread := timestamp_ofTimestamp (valid.deletedAt t hc).toIsCivil
      exact map_eq_fine_iff.2 ⟨t, hread, rfl⟩
  -- each member is found under its name and read back by itself
  have hid := required_of_get? c.toJson "id" rfl (text_str c.id)
  have htitle := required_of_get? c.toJson "title" rfl (text_str c.talk.title)
  have hdescription := required_of_get? c.toJson "description" rfl (text_str c.talk.description)
  have hspeakerName := required_of_get? c.toJson "speaker_name" rfl (text_str c.talk.speakerName)
  have hspeakerTitle := required_of_get? c.toJson "speaker_title" rfl (text_str c.talk.speakerTitle)
  have haudience := required_of_get? c.toJson "target_audience" rfl (text_str c.talk.targetAudience)
  have hprerequisites := optional_of_get? c.toJson "prerequisites" none rfl hprerequisites
  have hseats := required_of_get? c.toJson "seats" rfl (positive_int valid.seats)
  have hstarts := required_of_get? c.toJson "starts_at" rfl
    (timestamp_ofTimestamp valid.startsAt.toIsCivil)
  have hends := required_of_get? c.toJson "ends_at" rfl
    (timestamp_ofTimestamp valid.endsAt.toIsCivil)
  have hhost := required_of_get? c.toJson "host_id" rfl (text_str c.hostId)
  have hstatus := optional_of_get? c.toJson "status" .pending rfl (choice_word c.status)
  have hcreated := optional_of_get? c.toJson "created_at" now rfl
    (timestamp_ofTimestamp valid.createdAt.toIsCivil)
  have hupdated := optional_of_get? c.toJson "updated_at" now rfl
    (timestamp_ofTimestamp valid.updatedAt.toIsCivil)
  have hdeleted := optional_of_get? c.toJson "deleted_at" none rfl hdeleted
  simp only [read, hid, htitle, hdescription, hspeakerName, hspeakerTitle, haudience,
    hprerequisites, hseats, hstarts, hends, hhost, hstatus, hcreated, hupdated, hdeleted]
  rfl

/-- A valid conference is taken again from its own record, whatever the time is. -/
theorem ofJson_toJson (valid : c.IsValid) (now : Timestamp) : ofJson now c.toJson = .ok c := by
  have hread : Failure.ofRecord kind (read now) c.toJson = .ok c :=
    Failure.ofRecord_eq_ok_iff.2 ⟨⟨_, rfl⟩, read_toJson valid now⟩
  have hordered : c.window.startsAt.isBefore c.window.endsAt = .ok true :=
    Failure.ofComparison_eq_ok_iff.2 (beq_iff_eq.1 valid.ordered)
  exact Failure.bind_eq_ok_iff.2 ⟨c, hread, Failure.bind_eq_ok_iff.2 ⟨true, hordered, rfl⟩⟩

end Conference

end Symposium
