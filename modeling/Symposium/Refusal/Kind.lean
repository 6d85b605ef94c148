/-!
# Kinds of refusals

Each refusal is of a kind, which has a code for programs and a message for people, and belongs to a
family, which decides about the HTTP status. Main statement: a kind is known by its name.
-/

namespace Symposium.Refusal

/-- The families of refusals. -/
inductive Family where
  | notFound
  | forbidden
  | conflict
  | validationFailed
  | unauthenticated
  | internal
  deriving DecidableEq, Repr, Inhabited

/-- What a request is refused for. -/
inductive Kind where
  /-- Any refusal. -/
  | any
  /-- Any refusal of a family. -/
  | general (family : Family)
  | conferenceNotFound
  | feedbackNotFound
  | forbiddenUser
  | forbiddenRole
  | hostCannotRegister
  | notRegistered
  | hostCannotGiveFeedback
  | timeWindowConflict
  | userHasActiveProposal
  | alreadyRegistered
  | conferenceFull
  | conflictingRegistrations
  | feedbackAlreadyGiven
  | timeAlreadyPassed
  | endTimeBeforeStart
  | conferenceEnded
  | conferenceNotEnded
  | updatePastConference
  | updateRejectedConference
  | updateApprovedTimeWindow
  | updatePastConferenceStatus
  | invalidStatusTransition
  | invalidPagination
  | invalidLimit
  deriving DecidableEq, Repr, Inhabited

namespace Kind

/-- The name of the kind of all refusals. -/
def anyName : String := "AppError"

/-- The name, the code and the message of a family. -/
def describeFamily : Family → String × String × String
  | .notFound => ("NotFoundError", "NOT_FOUND", "Data not found.")
  | .forbidden => ("ForbiddenError", "FORBIDDEN", "You are not allowed to perform this action.")
  | .conflict => ("ConflictError", "CONFLICT", "The request conflicts with the current state.")
  | .validationFailed => ("ValidationFailedError", "VALIDATION_FAILED", "The request is invalid.")
  | .unauthenticated => ("UnauthenticatedError", "UNAUTHENTICATED", "Authentication is required.")
  | .internal =>
    ("InternalServerError", "INTERNAL_SERVER_ERROR",
      "Something went wrong in our server. Please try again later.")

/-- The name, the code and the message of a kind. -/
def describe : Kind → String × String × String
  | any => (anyName, "APP_ERROR", "An application error occurred.")
  | general family => describeFamily family
  | conferenceNotFound => ("ConferenceNotFound", "CONFERENCE_NOT_FOUND", "Conference not found.")
  | feedbackNotFound => ("FeedbackNotFound", "FEEDBACK_NOT_FOUND", "Feedback not found.")
  | forbiddenUser =>
    ("ForbiddenUser", "FORBIDDEN_USER", "You are not allowed to access this resource.")
  | forbiddenRole =>
    ("ForbiddenRole", "FORBIDDEN_ROLE", "Your role is not allowed to perform this action.")
  | hostCannotRegister =>
    ("HostCannotRegister", "HOST_CANNOT_REGISTER",
      "The host cannot register to their own conference.")
  | notRegistered =>
    ("NotRegistered", "USER_NOT_REGISTERED", "You are not registered to this conference.")
  | hostCannotGiveFeedback =>
    ("HostCannotGiveFeedback", "HOST_CANNOT_GIVE_FEEDBACK",
      "The host cannot give feedback on their own conference.")
  | timeWindowConflict =>
    ("TimeWindowConflict", "TIME_WINDOW_CONFLICT",
      "The time window overlaps an approved conference.")
  | userHasActiveProposal =>
    ("UserHasActiveProposal", "USER_HAS_ACTIVE_PROPOSAL",
      "You already have a pending conference proposal.")
  | alreadyRegistered =>
    ("AlreadyRegistered", "ALREADY_REGISTERED", "You are already registered to this conference.")
  | conferenceFull => ("ConferenceFull", "CONFERENCE_FULL", "The conference has no seats left.")
  | conflictingRegistrations =>
    ("ConflictingRegistrations", "CONFLICTING_REGISTRATIONS",
      "You are registered to a conference in the same time window.")
  | feedbackAlreadyGiven =>
    ("FeedbackAlreadyGiven", "FEEDBACK_ALREADY_GIVEN",
      "You have already given feedback on this conference.")
  | timeAlreadyPassed =>
    ("TimeAlreadyPassed", "TIME_ALREADY_PASSED", "The start time has already passed.")
  | endTimeBeforeStart =>
    ("EndTimeBeforeStart", "END_TIME_BEFORE_START", "The end time must be after the start time.")
  | conferenceEnded => ("ConferenceEnded", "CONFERENCE_ENDED", "The conference has already ended.")
  | conferenceNotEnded =>
    ("ConferenceNotEnded", "CONFERENCE_NOT_ENDED",
      "Feedback can only be given after the conference has ended.")
  | updatePastConference =>
    ("UpdatePastConference", "UPDATE_PAST_CONFERENCE",
      "A conference that has already ended cannot be updated.")
  | updateRejectedConference =>
    ("UpdateRejectedConference", "UPDATE_REJECTED_CONFERENCE",
      "A rejected conference cannot be updated.")
  | updateApprovedTimeWindow =>
    ("UpdateApprovedTimeWindow", "UPDATE_APPROVED_TIME_WINDOW",
      "The time window of an approved conference cannot be changed.")
  | updatePastConferenceStatus =>
    ("UpdatePastConferenceStatus", "UPDATE_PAST_CONFERENCE_STATUS",
      "A conference that has already started can only be rejected.")
  | invalidStatusTransition =>
    ("InvalidStatusTransition", "INVALID_STATUS_TRANSITION",
      "Only pending conferences can be approved or rejected.")
  | invalidPagination =>
    ("InvalidPagination", "INVALID_PAGINATION",
      "after_id and before_id cannot be used together.")
  | invalidLimit => ("InvalidLimit", "INVALID_LIMIT", "limit is out of range.")

/-- The name of a kind. -/
def name (kind : Kind) : String :=
  kind.describe.1

/-- The code of a kind. -/
def code (kind : Kind) : String :=
  kind.describe.2.1

/-- What a kind says when nothing else is said. -/
def message (kind : Kind) : String :=
  kind.describe.2.2

/-- The family that a kind belongs to. -/
def family? : Kind → Option Family
  | any => none
  | general family => some family
  | conferenceNotFound | feedbackNotFound => some .notFound
  | forbiddenUser | forbiddenRole | hostCannotRegister | notRegistered
  | hostCannotGiveFeedback => some .forbidden
  | timeWindowConflict | userHasActiveProposal | alreadyRegistered | conferenceFull
  | conflictingRegistrations | feedbackAlreadyGiven => some .conflict
  | timeAlreadyPassed | endTimeBeforeStart | conferenceEnded | conferenceNotEnded
  | updatePastConference | updateRejectedConference | updateApprovedTimeWindow
  | updatePastConferenceStatus | invalidStatusTransition | invalidPagination
  | invalidLimit => some .validationFailed

/-- The HTTP status of a family. -/
def familyStatus : Family → Nat
  | .notFound => 404
  | .forbidden => 403
  | .conflict => 409
  | .validationFailed => 400
  | .unauthenticated => 401
  | .internal => 500

/-- The HTTP status of a kind; a refusal of no family is a failure of the server. -/
def status (kind : Kind) : Nat :=
  (kind.family?.map familyStatus).getD 500

/-- The kinds that a kind is a case of, from itself to the most general one. -/
def lineage : Kind → List Kind
  | any => [any]
  | general family => [general family, any]
  | kind => kind :: (kind.family?.map general).toList ++ [any]

/-- Every kind of refusal. -/
def all : List Kind :=
  [any, general .notFound, general .forbidden, general .conflict, general .validationFailed,
    general .unauthenticated, general .internal, conferenceNotFound, feedbackNotFound,
    forbiddenUser, forbiddenRole, hostCannotRegister, notRegistered, hostCannotGiveFeedback,
    timeWindowConflict, userHasActiveProposal, alreadyRegistered, conferenceFull,
    conflictingRegistrations, feedbackAlreadyGiven, timeAlreadyPassed, endTimeBeforeStart,
    conferenceEnded, conferenceNotEnded, updatePastConference, updateRejectedConference,
    updateApprovedTimeWindow, updatePastConferenceStatus, invalidStatusTransition,
    invalidPagination, invalidLimit]

/-- The kind of refusal with a name. -/
def ofName? (name : String) : Option Kind :=
  all.find? (·.name == name)

/-- Every kind of refusal is found by its own name. -/
theorem ofName?_name (kind : Kind) : ofName? kind.name = some kind := by
  cases kind with
  | general family => cases family <;> decide
  | _ => decide

end Kind

end Symposium.Refusal
