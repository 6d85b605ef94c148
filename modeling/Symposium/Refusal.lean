import Symposium.Conference.Card
import Symposium.Principal
import Symposium.Refusal.Kind

/-!
# Refusals

Why a request that was well formed is not carried out, with what there is to say about the cause.
Details are shown to whoever made the request; the context stays in the logs.
-/

namespace Symposium

/-- Why a request is not carried out. -/
inductive Refusal where
  | conferenceNotFound (id : String)
  | feedbackNotFound (id : String)
  /-- The conference is none of the principal's business. -/
  | notYourConference (id : String)
  /-- Somebody else's undecided or rejected conferences were asked for. -/
  | notYourProposals (hostId : String)
  /-- Somebody else's registrations were asked for. -/
  | notYourRegistrations (userId : String)
  | forbiddenRole (role : Role)
  /-- The request is open to other roles only. -/
  | roleNotAmong (role : Role) (allowed : List Role)
  | hostCannotRegister
  | notRegistered
  | hostCannotGiveFeedback
  | timeWindowConflict (clashes : List Clash)
  | userHasActiveProposal (proposal : Conference)
  | alreadyRegistered
  /-- No seat is left, and how many there are and are taken, if that is known. -/
  | conferenceFull (seats : Option (Nat × Nat))
  | conflictingRegistrations (clashes : List Clash)
  | feedbackAlreadyGiven
  | timeAlreadyPassed (startsAt : Timestamp)
  | endTimeBeforeStart (window : Window)
  | conferenceEnded
  | conferenceNotEnded (endsAt : Timestamp)
  | updatePastConference
  | updateRejectedConference
  | updateApprovedTimeWindow
  | updatePastConferenceStatus (startsAt : Timestamp)
  | invalidStatusTransition (previous target : Status)
  | invalidPagination (afterId beforeId : String)
  | invalidLimit (limit least most : Int)
  | unauthenticated
  /-- The request claims a role that does not exist. -/
  | unknownRole (word : String)
  /-- A proposal was made by nobody. -/
  | nobodyProposes
  /-- No id could be made for the conference that somebody proposes. -/
  | noConferenceId (hostId : String)
  /-- No id could be made for the feedback of a user on a conference. -/
  | noFeedbackId (conferenceId userId : String)
  /-- Something failed that nobody was prepared for. -/
  | unforeseen
  deriving DecidableEq, Repr, Inhabited

namespace Refusal

/-- The kind of a refusal. -/
def kind : Refusal → Kind
  | conferenceNotFound _ => .conferenceNotFound
  | feedbackNotFound _ => .feedbackNotFound
  | notYourConference _ => .forbiddenUser
  | notYourProposals _ => .forbiddenUser
  | notYourRegistrations _ => .forbiddenUser
  | forbiddenRole _ => .forbiddenRole
  | roleNotAmong .. => .forbiddenRole
  | hostCannotRegister => .hostCannotRegister
  | notRegistered => .notRegistered
  | hostCannotGiveFeedback => .hostCannotGiveFeedback
  | timeWindowConflict _ => .timeWindowConflict
  | userHasActiveProposal _ => .userHasActiveProposal
  | alreadyRegistered => .alreadyRegistered
  | conferenceFull _ => .conferenceFull
  | conflictingRegistrations _ => .conflictingRegistrations
  | feedbackAlreadyGiven => .feedbackAlreadyGiven
  | timeAlreadyPassed _ => .timeAlreadyPassed
  | endTimeBeforeStart _ => .endTimeBeforeStart
  | conferenceEnded => .conferenceEnded
  | conferenceNotEnded _ => .conferenceNotEnded
  | updatePastConference => .updatePastConference
  | updateRejectedConference => .updateRejectedConference
  | updateApprovedTimeWindow => .updateApprovedTimeWindow
  | updatePastConferenceStatus _ => .updatePastConferenceStatus
  | invalidStatusTransition .. => .invalidStatusTransition
  | invalidPagination .. => .invalidPagination
  | invalidLimit .. => .invalidLimit
  | unauthenticated => .general .unauthenticated
  | unknownRole _ => .general .unauthenticated
  | nobodyProposes => .general .internal
  | noConferenceId _ => .general .internal
  | noFeedbackId .. => .general .internal
  | unforeseen => .general .internal

/-- A timestamp in an explanation. -/
def showTime (t : Timestamp) : Json :=
  .str (t.print .plain)

/-- A role in an explanation. -/
def showRole (role : Role) : Json :=
  .str role.word

/-- What the principal is told about the cause. -/
def details : Refusal → Option Json
  | notYourProposals hostId => some (.obj [("host_id", .str hostId)])
  | notYourRegistrations userId => some (.obj [("user_id", .str userId)])
  | forbiddenRole role => some (.obj [("role", showRole role)])
  | roleNotAmong role allowed =>
    some (.obj [("role", showRole role), ("allowed", .arr (allowed.map showRole))])
  | timeWindowConflict clashes => some (Clash.explain clashes)
  | userHasActiveProposal c =>
    some (.obj [("conference", .obj [("id", .str c.id), ("title", .str c.talk.title),
      ("status", .str c.status.word), ("created_at", showTime c.createdAt)])])
  | conferenceFull (some (seats, taken)) =>
    some (.obj [("seats", .int seats), ("seats_taken", .int taken)])
  | conflictingRegistrations clashes => some (Clash.explain clashes)
  | timeAlreadyPassed startsAt => some (.obj [("starts_at", showTime startsAt)])
  | endTimeBeforeStart window =>
    some (.obj [("starts_at", showTime window.startsAt), ("ends_at", showTime window.endsAt)])
  | conferenceNotEnded endsAt => some (.obj [("ends_at", showTime endsAt)])
  | updatePastConferenceStatus startsAt => some (.obj [("starts_at", showTime startsAt)])
  | invalidStatusTransition previous target =>
    some (.obj [("from", .str previous.word), ("to", .str target.word)])
  | invalidPagination afterId beforeId =>
    some (.obj [("after_id", .str afterId), ("before_id", .str beforeId)])
  | invalidLimit limit least most =>
    some (.obj [("limit", .int limit), ("min", .int least), ("max", .int most)])
  | unknownRole word => some (.obj [("role", .str word)])
  | _ => none

/-- What only the logs say about the cause. -/
def context : Refusal → Json.Members
  | conferenceNotFound id => [("conference_id", .str id)]
  | feedbackNotFound id => [("feedback_id", .str id)]
  | notYourConference id => [("conference_id", .str id)]
  | noConferenceId hostId => [("requester_id", .str hostId)]
  | noFeedbackId conferenceId userId =>
    [("conference_id", .str conferenceId), ("user_id", .str userId)]
  | _ => []

end Refusal

end Symposium
