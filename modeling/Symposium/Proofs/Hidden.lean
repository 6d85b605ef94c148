import Mathlib.Data.List.Forall2
import Symposium.Proofs.Views

/-!
# What is hidden

A conference that is not approved is hidden from a plain user who neither hosts it nor has a seat at
it. Two offices agree for a user if they differ at most in the content of what is hidden. What the
user reads is then the same, as hidden rows are refused one by one and are left out of listings
before anything else is asked of them. The one exception is a cursor: it is looked up among all
rows, so in order of starts it tells where a hidden conference starts. Main statement: in offices
that agree every answer is the same, in order of starts if the cursor starts at the same instant.
-/

namespace Symposium

/-- A user in no other role. -/
def Principal.plain (userId : String) : Principal := ⟨some userId, some .user⟩

namespace Conference

/-- Whether a conference is hidden from a user. -/
structure Hidden (roll : Roll) (userId : String) (c : Conference) : Prop where
  live : c.isLive = true
  unapproved : c.status ≠ .approved
  foreign : c.hostId ≠ userId
  unvisited : roll.has c.id userId = false

/-- Whether two conferences are the same, or hidden from a user and different in content alone. -/
inductive Resembles (roll : Roll) (userId : String) : Conference → Conference → Prop where
  | same {c} :
    Resembles roll userId c c
  | hidden {c d} :
    c.Hidden roll userId →
    d.Hidden roll userId →
    d.id = c.id →
    d.hostId = c.hostId →
    d.status = c.status →
    Resembles roll userId c d

variable {roll : Roll} {userId id : String} {c d : Conference}

/-- What is hidden from a user is not theirs to oversee. -/
lemma Hidden.oversees_eq (h : c.Hidden roll userId) :
    (Principal.plain userId).oversees c = false := by
  have hother : (some userId == some c.hostId) = false := by simpa using Ne.symm h.foreign
  simp only [Principal.oversees, Principal.isUser, Principal.plain, hother]
  rfl

/-- What is hidden from a user they do not see. -/
lemma Hidden.sees_eq (h : c.Hidden roll userId) : (Principal.plain userId).sees c = false := by
  cases hsees : (Principal.plain userId).sees c with
  | false => rfl
  | true =>
    obtain happroved | hunrestricted | hhost := Principal.sees_iff.1 hsees
    · exact absurd happroved h.unapproved
    · cases hunrestricted
    · exact absurd (Option.some.inj hhost).symm h.foreign

/-- What is hidden is refused with its id and nothing else. -/
lemma Hidden.checkView_eq (h : c.Hidden roll userId) :
    (Principal.plain userId).checkView c = .error (.refused (.notYourConference c.id)) := by
  rw [Principal.checkView, h.sees_eq]
  rfl

namespace Resembles

/-- Conferences that resemble each other have one id. -/
lemma id_eq (h : Resembles roll userId c d) : d.id = c.id := by
  cases h with
  | same => rfl
  | hidden _ _ hid _ _ => exact hid

/-- Conferences that resemble each other are both live, or neither is. -/
lemma isLive_eq (h : Resembles roll userId c d) : d.isLive = c.isLive := by
  cases h with
  | same => rfl
  | hidden hc hd _ _ _ => rw [hc.live, hd.live]

/-- Among rows that resemble each other one by one, the same place is found. -/
lemma find? {rows others : List Conference}
    (h : List.Forall₂ (Resembles roll userId) rows others) :
    Option.Rel (Resembles roll userId) (rows.find? fun c => c.id = id)
      (others.find? fun c => c.id = id) := by
  induction h with
  | nil => exact .none
  | @cons c d rows others hfirst _ ih =>
    by_cases hid : c.id = id
    · rw [List.find?_cons_of_pos (by simpa using hid),
        List.find?_cons_of_pos (by simpa [hfirst.id_eq] using hid)]
      exact .some hfirst
    · rw [List.find?_cons_of_neg (by simpa using hid),
        List.find?_cons_of_neg (by simpa [hfirst.id_eq] using hid)]
      exact ih

end Resembles

end Conference

open Conference (Resembles)

/-- If a test says the same of rows that resemble each other, and only keeps what is the same. -/
lemma Failure.keep_eq_of_forall₂ {α : Type} {test : α → Except Failure Bool}
    {alike : α → α → Prop} {rows others : List α} (h : List.Forall₂ alike rows others)
    (htest : ∀ a ∈ rows, ∀ b ∈ others, alike a b → a = b ∨ test a = test b ∧ test a ≠ .ok true) :
    keep test rows = keep test others := by
  induction h with
  | nil => rfl
  | @cons a b rows others hfirst _ ih =>
    have hrest := ih fun a ha b hb =>
      htest a (List.mem_cons_of_mem _ ha) b (List.mem_cons_of_mem _ hb)
    rw [keep, keep, hrest]
    obtain rfl | ⟨hsame, hdropped⟩ := htest a List.mem_cons_self b List.mem_cons_self hfirst
    · rfl
    · rw [← hsame]
      cases htest : test a with
      | error failure => rfl
      | ok passes =>
        cases passes with
        | false => rfl
        | true => exact absurd htest hdropped

/-- The place that a cursor means depends on the key of that cursor alone. -/
lemma Page.Request.place_congr {request : Request} {keyOf otherKeyOf : String → Option SortKey}
    (h : ∀ id ∈ request.afterId.or request.beforeId, keyOf id = otherKeyOf id) :
    request.place keyOf = request.place otherKeyOf := by
  obtain ⟨afterId, beforeId, limit⟩ := request
  cases afterId with
  | some afterId =>
    cases beforeId with
    | some beforeId => rfl
    | none => simp only [place, h afterId rfl]
  | none =>
    cases beforeId with
    | some beforeId => simp only [place, h beforeId rfl]
    | none => rfl

namespace Programme

/-- What fits a query is a row. -/
lemma mem_of_fitting {programme : Programme} {query : Query} {now : Timestamp}
    {rows : List Conference} {c : Conference} (h : programme.fitting query now = .ok rows)
    (hc : c ∈ rows) : c ∈ programme.rows :=
  (List.mem_filter.1 (Failure.of_mem_keep h hc).1).1

/-- Among other rows, a page by start is the same if its cursor starts at the same instant. -/
lemma pageByStart_congr {programme other : Programme} {rows : List Conference}
    {request : Page.Request} (descending : Bool) (hrows : rows ⊆ programme.rows)
    (hothers : rows ⊆ other.rows) (aware : ∀ c ∈ programme.rows, c.window.isAware = true)
    (otherAware : ∀ c ∈ other.rows, c.window.isAware = true)
    (hcursor : ∀ id ∈ request.afterId.or request.beforeId,
      programme.startKeyOf id = other.startKeyOf id) :
    programme.pageByStart request descending rows =
      other.pageByStart request descending rows := by
  rw [pageByStart, pageByStart, Page.Request.place_congr hcursor,
    allComparable_comparedStarts request hrows aware,
    allComparable_comparedStarts request hothers otherAware]

end Programme

/-- What a plain user is listed is approved or their own. -/
lemma Principal.Scopes.of_plain {userId : String} {query narrowed : Query}
    (h : Scopes (.plain userId) query narrowed) :
    narrowed.status = .approved ∨ narrowed.hostId = some userId := by
  cases h with
  | asked hopen =>
    cases hopen with
    | inl happroved => exact .inl happroved
    | inr hunrestricted => cases hunrestricted
  | own _ _ => exact .inr rfl
  | named hquery huser => exact .inr (hquery.trans huser.symm)

/-- Beside a test that fails anyway, it does not matter which window with offsets is looked at. -/
lemma Window.listed_congr {window other : Window} (aware : window.isAware = true)
    (otherAware : other.isAware = true) (includePast : Bool) (now : Timestamp) :
    Failure.both (window.isListed includePast now) (.ok false) =
      Failure.both (other.isListed includePast now) (.ok false) := by
  cases includePast with
  | true => rfl
  | false =>
    -- the times may be different, but they can both be put in order with the clock or cannot
    have hends : window.endsAt.isAware = true := (Bool.and_eq_true_iff.1 aware).2
    have hotherEnds : other.endsAt.isAware = true := (Bool.and_eq_true_iff.1 otherAware).2
    have hended (t : Timestamp) (ht : t.isAware = true) :
        Failure.both (now.isBefore t) (.ok false) =
          if now.isAware then .ok false else .error .incomparable := by
      simp only [Timestamp.isBefore, Timestamp.before?, Timestamp.comparable, ht, beq_true]
      split
      · exact Failure.both_ok _ false |>.trans (by rw [Bool.and_false])
      · rfl
    exact (hended _ hends).trans (hended _ hotherEnds).symm

/-- What is hidden fits nothing that a plain user is listed. -/
lemma Query.fits_hidden {roll : Roll} {userId : String} {query : Query} {now : Timestamp}
    {c d : Conference} (hquery : query.status = .approved ∨ query.hostId = some userId)
    (hc : c.Hidden roll userId) (hd : d.Hidden roll userId) (hstatus : d.status = c.status)
    (aware : c.window.isAware = true) (otherAware : d.window.isAware = true) :
    query.fits now c = query.fits now d ∧ query.fits now c ≠ .ok true := by
  constructor
  · rw [fits, fits, hstatus]
    cases hquery with
    | inl happroved =>
      -- the status alone decides, before anything else is looked at
      have hother : (c.status == query.status) = false := by
        rw [happroved]
        simpa using hc.unapproved
      rw [hother]
      rfl
    | inr hown =>
      have hforeign {e : Conference} (he : e.Hidden roll userId) :
          (query.fitsTitle e.talk.title && query.fitsHost e.hostId) = false := by
        rw [fitsHost, hown]
        simpa using fun _ => Ne.symm he.foreign
      -- the host decides, before the times are looked at
      have hrest (rest : Except Failure Bool) : Failure.both (.ok false) rest = .ok false := rfl
      rw [hforeign hc, hforeign hd, hrest, hrest, Window.listed_congr aware otherAware]
  · intro hfits
    obtain ⟨hsame, hhost⟩ := of_fits hfits
    cases hquery with
    | inl happroved => exact hc.unapproved (hsame.trans happroved)
    | inr hown => exact hc.foreign (fitsHost_iff.1 hhost userId hown).symm

/-- Whether two offices agree but for the content of what is hidden from a user. -/
structure Office.Agree (userId : String) (a b : Office) : Prop where
  rows : List.Forall₂ (Resembles a.roll userId) a.programme.rows b.programme.rows
  roll : a.roll = b.roll
  feedback : a.feedback = b.feedback
  timeline : a.journal.timeline = b.journal.timeline
  policy : a.policy = b.policy

namespace Office.Agree

variable {userId id : String} {a b : Office} {now : Timestamp} {request : Page.Request}

/-- Under one id, two offices that agree have rows that resemble each other. -/
lemma get?_rel (h : Agree userId a b) (id : String) :
    Option.Rel (Resembles a.roll userId) (a.programme.get? id) (b.programme.get? id) :=
  Resembles.find? h.rows

/-- Under one id, two offices that agree find conferences that resemble each other. -/
lemma find?_rel (h : Agree userId a b) (id : String) :
    Option.Rel (Resembles a.roll userId) (a.programme.find? id) (b.programme.find? id) := by
  have hget := h.get?_rel id
  unfold Programme.find?
  generalize a.programme.get? id = found, b.programme.get? id = other at hget
  cases hget with
  | none => exact .none
  | @some c d hrel =>
    rw [Option.filter_some, Option.filter_some, hrel.isLive_eq]
    split
    · exact .some hrel
    · exact .none

/-- As the same seats are taken, the same rows have the same cards. -/
lemma card_eq (h : Agree userId a b) : a.card = b.card := by
  funext c
  rw [card, card, h.roll]

/-- What is loaded to be shown is the same, and what is hidden is refused alike. -/
lemma loadVisible_eq (h : Agree userId a b) :
    a.loadVisible (.plain userId) id = b.loadVisible (.plain userId) id := by
  have hfind := h.find?_rel id
  unfold loadVisible load
  generalize a.programme.find? id = found, b.programme.find? id = other at hfind
  cases hfind with
  | none => rfl
  | some hrel =>
    cases hrel with
    | same => rfl
    | hidden hc hd hid _ _ =>
      show ((Principal.plain userId).checkView _ >>= fun _ => _) =
        ((Principal.plain userId).checkView _ >>= fun _ => _)
      rw [hc.checkView_eq, hd.checkView_eq, hid]
      rfl

/-- A conference is shown in the same way, or refused in the same way. -/
lemma get_eq (h : Agree userId a b) : a.get (.plain userId) id = b.get (.plain userId) id := by
  rw [get, get, h.loadVisible_eq, h.card_eq]

/-- The participants are the same, as the user oversees the same conferences. -/
lemma participants_eq (h : Agree userId a b) :
    a.participants (.plain userId) id request = b.participants (.plain userId) id request := by
  rw [participants, participants, h.policy, h.loadVisible_eq, h.roll]

/-- The feedback is the same, as the user sees the same conferences. -/
lemma notes_eq (h : Agree userId a b) :
    a.notes (.plain userId) id request = b.notes (.plain userId) id request := by
  rw [notes, notes, h.policy, h.loadVisible_eq, h.feedback]

/-- The timeline is the same, as the user oversees the same conferences. -/
lemma timeline_eq (h : Agree userId a b) :
    a.timeline (.plain userId) id = b.timeline (.plain userId) id := by
  have hget := h.get?_rel id
  have hentries : a.journal.timelineOf id = b.journal.timelineOf id := by
    rw [Journal.timelineOf, Journal.timelineOf, Journal.entriesOf, Journal.entriesOf, h.timeline]
  unfold Office.timeline
  generalize a.programme.get? id = found, b.programme.get? id = other at hget
  cases hget with
  | none => rfl
  | some hrel =>
    cases hrel with
    | same => simp only [hentries]
    | hidden hc hd _ _ _ =>
      simp only [hc.oversees_eq, hd.oversees_eq]
      rfl

/-- A listing leaves out what is hidden, and fails at it alike if the clock has no offset. -/
lemma fitting_eq (h : Agree userId a b) (aware : ∀ c ∈ a.programme.rows, c.window.isAware = true)
    (otherAware : ∀ c ∈ b.programme.rows, c.window.isAware = true) {query : Query}
    (now : Timestamp) (hquery : query.status = .approved ∨ query.hostId = some userId) :
    a.programme.fitting query now = b.programme.fitting query now := by
  have hlive : List.Forall₂ (Resembles a.roll userId) a.programme.live b.programme.live := by
    refine List.rel_filter (fun c d hrel => ?_) h.rows
    simp only [hrel.isLive_eq]
  apply Failure.keep_eq_of_forall₂ hlive
  intro c hc d hd hrel
  cases hrel with
  | same => exact .inl rfl
  | hidden hcHidden hdHidden _ _ hstatus =>
    have hcRow := (List.mem_filter.1 hc).1
    have hdRow := (List.mem_filter.1 hd).1
    exact .inr (Query.fits_hidden hquery hcHidden hdHidden hstatus (aware c hcRow)
      (otherAware d hdRow))

/-- A listing is the same, unless its cursor is a row that starts at another time. -/
lemma list_eq (h : Agree userId a b) (aware : ∀ c ∈ a.programme.rows, c.window.isAware = true)
    (otherAware : ∀ c ∈ b.programme.rows, c.window.isAware = true) {query : Query}
    (hcursor : query.sortBy = .start → ∀ id ∈ query.page.afterId.or query.page.beforeId,
      a.programme.startKeyOf id = b.programme.startKeyOf id) :
    a.list (.plain userId) query now = b.list (.plain userId) query now := by
  rw [list, list, h.policy, h.card_eq]
  cases hscope : (Principal.plain userId).scope query with
  | error failure => rfl
  | ok narrowed =>
    have hlist : a.programme.list narrowed now = b.programme.list narrowed now := by
      have hfitting := h.fitting_eq aware otherAware now
        (Principal.Scopes.of_scope hscope).of_plain
      obtain ⟨hostId, rfl, _⟩ := Principal.exists_hostId_of_scope hscope
      rw [Programme.list, Programme.list, ← hfitting]
      cases hrows : a.programme.fitting { query with hostId } now with
      | error failure => rfl
      | ok rows =>
        cases hsort : query.sortBy with
        | created => rfl
        | start =>
          -- only a listing by starts looks at the row of its cursor
          refine Programme.pageByStart_congr query.descending ?_ ?_ aware otherAware
            (hcursor hsort)
          · exact fun c hc => Programme.mem_of_fitting hrows hc
          · exact fun c hc => Programme.mem_of_fitting (hfitting ▸ hrows) hc
    show (do Failure.ofRefusal _; let page ← a.programme.list narrowed now; _) = _
    rw [hlist]
    rfl

/-- The conferences with a seat of the user are the same, as none of them is hidden. -/
lemma conferencesOf_eq (h : Agree userId a b) : a.roll.conferencesOf a.programme userId =
    a.roll.conferencesOf b.programme userId := by
  unfold Roll.conferencesOf
  apply List.filterMap_congr
  intro r hr
  obtain ⟨hrow, huser⟩ := List.mem_filter.1 hr
  have hseat : a.roll.has r.conferenceId userId = true :=
    Roll.has_iff.2 ⟨r, hrow, rfl, by simpa using huser⟩
  have hfind := h.find?_rel r.conferenceId
  have hid : ∀ c ∈ a.programme.find? r.conferenceId, c.id = r.conferenceId :=
    fun c hc => (Programme.find?_eq_some_iff_mem.1 hc).2.1
  generalize a.programme.find? r.conferenceId = found, b.programme.find? r.conferenceId = other
    at hfind hid
  cases hfind with
  | none => rfl
  | some hrel =>
    cases hrel with
    | same => rfl
    -- a conference with a seat of the user is not hidden from them
    | hidden hc _ _ _ _ =>
      have hunvisited := hc.unvisited
      rw [hid _ rfl, hseat] at hunvisited
      cases hunvisited

/-- A page of them is the same, unless its cursor is a row that starts at another time. -/
lemma visited_eq (h : Agree userId a b) (aware : ∀ c ∈ a.programme.rows, c.window.isAware = true)
    (otherAware : ∀ c ∈ b.programme.rows, c.window.isAware = true) {includePast : Bool}
    (hcursor : ∀ id ∈ request.afterId.or request.beforeId,
      a.programme.startKeyOf id = b.programme.startKeyOf id) :
    a.conferencesOf (.plain userId) userId includePast request now =
      b.conferencesOf (.plain userId) userId includePast request now := by
  have hpage : a.roll.conferencePage a.programme userId includePast request now =
      b.roll.conferencePage b.programme userId includePast request now := by
    rw [Roll.conferencePage, Roll.conferencePage, ← h.roll, ← h.conferencesOf_eq]
    cases hkeep : Failure.keep (fun c => c.window.isListed includePast now)
        (a.roll.conferencesOf a.programme userId) with
    | error failure => rfl
    | ok rows =>
      have hmem {c : Conference} (hc : c ∈ rows) : c ∈ a.roll.conferencesOf a.programme userId :=
        (Failure.of_mem_keep hkeep hc).1
      apply Programme.pageByStart_congr false _ _ aware otherAware hcursor
      · intro c hc
        exact Programme.mem_of_find? (Roll.mem_conferencesOf_iff.1 (hmem hc)).1
      · intro c hc
        have hc := hmem hc
        rw [h.conferencesOf_eq] at hc
        exact Programme.mem_of_find? (Roll.mem_conferencesOf_iff.1 hc).1
  rw [Office.conferencesOf, Office.conferencesOf, h.policy, hpage, h.card_eq]

end Office.Agree

namespace Office

/--
However the operations overtook each other and whatever the clock showed: in two offices that agree
but for the content of what is hidden from a plain user, all that this user reads is the same, in
order of starts if the conference that the cursor names starts at the same instant in both.
-/
theorem hidden_content_is_unread (userId : String) (start other : Office)
    (hempty : start.programme = .empty) (hotherEmpty : other.programme = .empty) (t t' : Traffic)
    (hrun : Traffic.ReadRun (.quiet start) t) (hotherRun : Traffic.ReadRun (.quiet other) t')
    (hagree : Agree userId t.office t'.office) :
    (∀ id, t.office.get (.plain userId) id = t'.office.get (.plain userId) id) ∧
    (∀ query now,
      (query.sortBy = .start → ∀ id ∈ query.page.afterId.or query.page.beforeId,
        t.office.programme.startKeyOf id = t'.office.programme.startKeyOf id) →
      t.office.list (.plain userId) query now = t'.office.list (.plain userId) query now) ∧
    (∀ id request, t.office.participants (.plain userId) id request =
      t'.office.participants (.plain userId) id request) ∧
    (∀ includePast request now,
      (∀ id ∈ request.afterId.or request.beforeId,
        t.office.programme.startKeyOf id = t'.office.programme.startKeyOf id) →
      t.office.conferencesOf (.plain userId) userId includePast request now =
        t'.office.conferencesOf (.plain userId) userId includePast request now) ∧
    (∀ id request, t.office.notes (.plain userId) id request =
      t'.office.notes (.plain userId) id request) ∧
    ∀ id, t.office.timeline (.plain userId) id = t'.office.timeline (.plain userId) id := by
  have aware := (hrun.aware hempty).rows
  have otherAware := (hotherRun.aware hotherEmpty).rows
  refine ⟨?_, ?_, ?_, ?_, ?_, ?_⟩
  · intro id
    exact hagree.get_eq
  · intro query now hcursor
    exact hagree.list_eq aware otherAware hcursor
  · intro id request
    exact hagree.participants_eq
  · intro includePast request now hcursor
    exact hagree.visited_eq aware otherAware hcursor
  · intro id request
    exact hagree.notes_eq
  · intro id
    exact hagree.timeline_eq

/-- One talk is approved, and another one is proposed for some hours. -/
def approvedAndProposed (window : Window) : List Visit :=
  let visit (userId : String) (role : Role) (operation : Operation) : Visit :=
    ⟨⟨some userId, some role⟩, operation, .hour 0, .hour 0⟩
  [visit "alice" .user (.propose ⟨default, 2, .hours 16 17⟩),
    visit "root" .admin (.decide (IdSource.numbered 1) .approved),
    visit "bob" .user (.propose ⟨default, 2, window⟩)]

/-- The two series differ in when a conference that is hidden from Ann starts. -/
lemma agree_approvedAndProposed :
    Agree "ann" ((start .standard (.scripted [])).serveAll (approvedAndProposed (.hours 13 15)))
      ((start .standard (.scripted [])).serveAll (approvedAndProposed (.hours 18 19))) where
  rows := by
    refine .cons .same (.cons (.hidden ?_ ?_ rfl rfl rfl) .nil)
    all_goals exact ⟨rfl, nofun, by decide, rfl⟩
  roll := rfl
  feedback := rfl
  timeline := rfl
  policy := rfl

/-- What a guest reads without a cursor does not depend on when the proposed talk starts. -/
theorem hidden_content_is_unread_of_proposal :
    let early := (start .standard (.scripted [])).serveAll (approvedAndProposed (.hours 13 15))
    let late := (start .standard (.scripted [])).serveAll (approvedAndProposed (.hours 18 19))
    early.get (.plain "ann") (IdSource.numbered 2) =
      late.get (.plain "ann") (IdSource.numbered 2) ∧
    early.list (.plain "ann") { pendingTalks with status := .approved } (.hour 1) =
      late.list (.plain "ann") { pendingTalks with status := .approved } (.hour 1) := by
  intro early late
  have hearly := readRun_serveAll (start .standard (.scripted []))
    (approvedAndProposed (.hours 13 15)) (by decide)
  have hlate := readRun_serveAll (start .standard (.scripted []))
    (approvedAndProposed (.hours 18 19)) (by decide)
  obtain ⟨hget, hlist, _⟩ := hidden_content_is_unread "ann" _ _ rfl rfl _ _ hearly hlate
    agree_approvedAndProposed
  exact ⟨hget _, hlist _ _ nofun⟩

/-- With the proposed talk as a cursor, the guest learns whether it starts before the other one. -/
theorem cursor_tells_hidden_start :
    let early := (start .standard (.scripted [])).serveAll (approvedAndProposed (.hours 13 15))
    let late := (start .standard (.scripted [])).serveAll (approvedAndProposed (.hours 18 19))
    let query : Query :=
      { pendingTalks with status := .approved, page := ⟨some (IdSource.numbered 2), none, 2⟩ }
    Traffic.ReadRun (.quiet (start .standard (.scripted []))) (.quiet early) ∧
      Traffic.ReadRun (.quiet (start .standard (.scripted []))) (.quiet late) ∧
      Agree "ann" early late ∧
      early.list (.plain "ann") query (.hour 1) ≠ late.list (.plain "ann") query (.hour 1) := by
  intro early late query
  refine ⟨readRun_serveAll _ _ (by decide), readRun_serveAll _ _ (by decide),
    agree_approvedAndProposed, fun hsame => ?_⟩
  have hrows := congrArg (fun answer => answer.toOption.map fun page => page.rows.length) hsame
  cases hrows

end Office

end Symposium
