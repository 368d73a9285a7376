import SafeCameroon.Access.Requests
import SafeCameroon.Access.Sound

namespace SafeCameroon.Access

open Process Text

/-- What a process has called and been answered. -/
abbrev Past := List (Exchange accessInterface)

def Known (past : Past) (call : Call) (answer : Except Failure call.Res) : Prop :=
  (⟨call, answer⟩ : Exchange accessInterface) ∈ past

theorem Known.mono {past later : Past} {call : Call} {answer : Except Failure call.Res}
    (known : Known past call answer) (grown : past ⊆ later) : Known later call answer := grown known

/-- A registration has counted the reviewers, and what it learnt of its caller allows the membership
that it is for. -/
structure Granted (server : Server) (job : Job) (request : Auth.RegisterRequest) (past : Past)
    (count : Nat) (role : Role) (organizationId : Option OrganizationId) : Prop where
  counted : Known past .countReviewers (.ok count)
  requested : Auth.requestedMembership count request job.requestId = .ok (role, organizationId)
  allowed : ∃ granter : Option Membership,
    (∀ membership, granter = some membership → ∃ reviewerId, job.caller server = some reviewerId ∧
      Known past (.incident (.findMembership reviewerId)) (.ok (some membership))) ∧
    authorizeMembershipGrant granter count role organizationId = .ok ()

theorem Granted.mono {server : Server} {job : Job} {request : Auth.RegisterRequest}
    {past later : Past} {count : Nat} {role : Role} {organizationId : Option OrganizationId}
    (granted : Granted server job request past count role organizationId) (grown : past ⊆ later) :
    Granted server job request later count role organizationId := by
  obtain ⟨granter, named, allowed⟩ := granted.allowed
  refine ⟨granted.counted.mono grown, granted.requested, granter, ?_, allowed⟩
  intro membership found
  obtain ⟨reviewerId, caller, known⟩ := named membership found
  exact ⟨reviewerId, caller, known.mono grown⟩

/-- The registration has created its reviewer and has not tried to add the membership yet. -/
def Registering (job : Job) (past : Past) : Prop :=
  (∃ email, Known past (.createReviewer (job.fresh 0) email) (.ok .created)) ∧
    ∀ role organizationId answer,
      ¬ Known past (.addMembership (job.fresh 0) role organizationId) answer

def accountsAllowed (server : Server) (job : Job) (past : Past) : Call → Prop
  | .incident (.findMembership reviewerId) => ∀ idToken, job.request = .googleLogin idToken →
      ∃ email, Known past (.findReviewerByEmail email) (.ok (some reviewerId))
  | .incident call => reads call
  | .countReviewers => ∀ answer, ¬ Known past .countReviewers answer
  | .createReviewer id email => ∃ request count role organizationId,
      job.request = .register request ∧ id = job.fresh 0 ∧ email = trim request.email ∧
      Granted server job request past count role organizationId
  | .addMembership id role organizationId => ∃ request count,
      job.request = .register request ∧ id = job.fresh 0 ∧
      Known past (.createReviewer id (trim request.email)) (.ok .created) ∧
      Granted server job request past count role organizationId
  | .recordReviewerAudit _ _ _ _ _ => ∀ request, job.request = .register request →
      ∃ email, Known past (.createReviewer (job.fresh 0) email) (.ok .created)
  | _ => True

/-- The rule for one request: a registration goes straight on from the reviewer to the membership. -/
structure AccountsProper (server : Server) (job : Job) (past : Past) (call : Call) : Prop where
  allowed : accountsAllowed server job past call
  onward : Registering job past → ∃ role organizationId,
    call = .addMembership (job.fresh 0) role organizationId

/-- What is known when a registration has ended. -/
structure Registered {α : Type} (job : Job) (past : Past) (result : Except HandlerError α) :
    Prop where
  settled : ¬ Registering job past
  added : ∀ response, result = .ok response → ∃ role organizationId,
    Known past (.addMembership (job.fresh 0) role organizationId) (.ok ())
  failed : ∀ error email, result = .error error →
    Known past (.createReviewer (job.fresh 0) email) (.ok .created) →
    ∃ failure, (∃ role organizationId,
        Known past (.addMembership (job.fresh 0) role organizationId) (.error failure)) ∨
      ∃ auditEventId actor action resourceId requestId,
        Known past (.recordReviewerAudit auditEventId actor action resourceId requestId)
          (.error failure)

def Auth.LoginCall : Call → Prop
  | .incident (.recordAndCheck _ _) | .incident (.findMembership _) => True
  | .findReviewerByEmail _ | .recordReviewerAudit _ _ _ _ _ => True
  | _ => False

/-- A login met a reviewer without a membership, or one of its calls raised the same words. -/
def Stray (past : Past) : Prop :=
  (∃ reviewerId, Known past (.incident (.findMembership reviewerId)) (.ok none)) ∨
    ∃ call, Auth.LoginCall call ∧
      Known past call (.error (.panic Auth.everyReviewerHasMembership))

/-- What is known when a request has ended. -/
structure AccountsEnded (job : Job) (past : Past) (result : Except HandlerError Response) :
    Prop where
  settled : ¬ Registering job past
  registered : ∀ request, job.request = .register request → Registered job past result
  panicked : ∀ idToken, job.request = .googleLogin idToken →
    result = .error (.panicked Auth.everyReviewerHasMembership) → Stray past

def Unrelated : Call → Prop
  | .incident call => reads call
  | .countReviewers | .createReviewer _ _ | .recordReviewerAudit _ _ _ _ _
  | .addMembership _ _ _ => False
  | _ => True

/-- The request has not begun to change accounts. -/
structure Untouched (job : Job) (past : Past) : Prop where
  created : ∀ email answer, ¬ Known past (.createReviewer (job.fresh 0) email) answer
  added : ∀ role organizationId answer,
    ¬ Known past (.addMembership (job.fresh 0) role organizationId) answer

section Untouched

variable {server : Server} {job : Job} {past : Past}

theorem Untouched.notRegistering (untouched : Untouched job past) : ¬ Registering job past := by
  intro registering
  obtain ⟨email, known⟩ := registering.1
  exact untouched.created email _ known

theorem Untouched.nil : Untouched job [] where
  created := fun _ _ known => by cases known
  added := fun _ _ _ known => by cases known

def Elsewhere : Call → Prop
  | .incident call => reads call
  | .createReviewer _ _ | .addMembership _ _ _ => False
  | _ => True

theorem Untouched.next (untouched : Untouched job past) (call : Call)
    (answer : Except Failure call.Res) (elsewhere : Elsewhere call) :
    Untouched job (⟨call, answer⟩ :: past) := by
  constructor
  · intro email other known
    cases known with
    | head => exact elsewhere
    | tail _ earlier => exact untouched.created email other earlier
  · intro role organizationId other known
    cases known with
    | head => exact elsewhere
    | tail _ earlier => exact untouched.added role organizationId other earlier

theorem Untouched.refused {α : Type} (untouched : Untouched job past) (error : HandlerError) :
    Registered job past (.error error : Except HandlerError α) where
  settled := untouched.notRegistering
  added := fun _ same => by cases same
  failed := fun _ email _ known => absurd known (untouched.created email _)

theorem Untouched.proper (untouched : Untouched job past) (call : Call)
    (allowed : accountsAllowed server job past call) : AccountsProper server job past call where
  allowed := allowed
  onward := fun registering => absurd registering untouched.notRegistering

end Untouched

end SafeCameroon.Access
