import SafeCameroon.Access.Registering

namespace SafeCameroon.Access

open Process

/-- A reviewer was found to manage the consumer: the membership, the owner and whether the owner is
active, as the request read them. -/
structure ConsumerAuthorized (server : Server) (job : Job) (past : Past) (consumerId : ConsumerId)
    (reviewerId : Uuid) (found : Option Membership) (owner : Option OrganizationId) : Prop where
  caller : job.caller server = some reviewerId
  membership : Known past (.incident (.findMembership reviewerId)) (.ok found)
  owned : Known past (.findOrganizationIdByConsumerId consumerId) (.ok owner)
  active : ∀ id, owner = some id → ∃ organization,
    Known past (.incident (.findOrganization id)) (.ok organization) ∧
      ((organization.map (·.isActive)).getD true = true ∨
        (Incidents.Cases.membershipOrNone found).role = .platformAdmin)
  allowed : authorizeConsumerManagement (Incidents.Cases.membershipOrNone found) owner = .ok ()

def Manages (server : Server) (job : Job) (past : Past) (consumerId : ConsumerId) : Prop :=
  ∃ reviewerId found owner, ConsumerAuthorized server job past consumerId reviewerId found owner

def CreatedCitizen (past : Past) (consumerId : ConsumerId) : Prop :=
  ∃ consumer managementTokenHash, consumer.id = consumerId ∧
    Known past (.createConsumerWithManagementToken consumer managementTokenHash) (.ok ())

def TokenRead (past : Past) (consumerId : ConsumerId) : Prop :=
  ∃ storedHash, Known past (.managementTokenHash consumerId) (.ok (some storedHash))

def SubscriptionRead (past : Past) (subscription : Subscription) : Prop :=
  ∃ id, Known past (.findSubscription id) (.ok (some subscription))

def ConsumersProper (server : Server) (job : Job) (past : Past) : Call → Prop
  | .incident call => reads call
  | .createSubscription subscription => Manages server job past subscription.consumerId ∨
      CreatedCitizen past subscription.consumerId
  | .updateSubscription _ subscription _ _ => ∃ before, SubscriptionRead past before ∧
      subscription.id = before.id ∧
      (Manages server job past before.consumerId ∨ TokenRead past before.consumerId)
  | .deleteSubscription id => ∃ before, SubscriptionRead past before ∧ id = before.id ∧
      TokenRead past before.consumerId
  | .upsertDeliveryPreference consumerId _ => Manages server job past consumerId ∨
      CreatedCitizen past consumerId ∨ TokenRead past consumerId
  | .setConsumerId id consumerId => Known past (.createOrganization id) (.ok ()) ∧
      (∃ consumer, consumer.id = consumerId ∧ Known past (.createConsumer consumer) (.ok ())) ∧
      ∀ another answer, ¬ Known past (.setConsumerId id another) answer
  | _ => True

def ShownAll (server : Server) (job : Job) (past : Past) (shown : List Subscription) : Prop :=
  ∃ reviewerId found, job.caller server = some reviewerId ∧
    Known past (.incident (.findMembership reviewerId)) (.ok found) ∧
    ((Incidents.Cases.membershipOrNone found).role = .platformAdmin ∨ shown = [] ∨
      ∃ id organization consumerId,
        (Incidents.Cases.membershipOrNone found).organizationId = some id ∧
        Known past (.incident (.findOrganization id)) (.ok (some organization)) ∧
        organization.consumerId = some consumerId ∧
        Known past (.incident (.findSubscriptionsByConsumer consumerId)) (.ok shown))

def ConsumersAnswered (server : Server) (job : Job) (past : Past) (response : Response) : Prop :=
  match job.request with
  | .listSubscriptionsForConsumer consumerId => Manages server job past consumerId ∧
      ∃ shown, response = .subscriptions shown ∧
        Known past (.incident (.findSubscriptionsByConsumer consumerId)) (.ok shown)
  | .getDeliveryPreference consumerId => Manages server job past consumerId ∧
      ∃ preference, response = .deliveryPreference consumerId preference
  | .listAllSubscriptions _ _ => ∃ shown, response = .subscriptions shown ∧
      ShownAll server job past shown
  | _ => True

def Harmless : Call → Prop
  | .incident call => reads call
  | .createSubscription _ | .updateSubscription _ _ _ _ | .deleteSubscription _
  | .upsertDeliveryPreference _ _ | .setConsumerId _ _ => False
  | _ => True

theorem Harmless.proper {server : Server} {job : Job} {past : Past} {call : Call}
    (harmless : Harmless call) : ConsumersProper server job past call := by
  cases call <;> first | exact harmless | cases harmless

/-- The request has linked no organization yet. -/
def Unlinked (past : Past) : Prop :=
  ∀ id consumerId answer, ¬ Known past (.setConsumerId id consumerId) answer

theorem Unlinked.next {past : Past} (unlinked : Unlinked past) (call : Call)
    (answer : Except Failure call.Res) (harmless : Harmless call) :
    Unlinked (⟨call, answer⟩ :: past) := by
  intro id consumerId other known
  cases known with
  | head => exact harmless
  | tail _ earlier => exact unlinked id consumerId other earlier

section Mono

variable {server : Server} {job : Job} {past later : Past} {consumerId : ConsumerId}

theorem Manages.mono (manages : Manages server job past consumerId) (grown : past ⊆ later) :
    Manages server job later consumerId := by
  obtain ⟨reviewerId, found, owner, authorized⟩ := manages
  refine ⟨reviewerId, found, owner, authorized.caller, authorized.membership.mono grown,
    authorized.owned.mono grown, ?_, authorized.allowed⟩
  intro id owns
  obtain ⟨organization, known, active⟩ := authorized.active id owns
  exact ⟨organization, known.mono grown, active⟩

theorem TokenRead.mono (read : TokenRead past consumerId) (grown : past ⊆ later) :
    TokenRead later consumerId := by
  obtain ⟨storedHash, known⟩ := read
  exact ⟨storedHash, known.mono grown⟩

theorem SubscriptionRead.mono {subscription : Subscription} (read : SubscriptionRead past subscription)
    (grown : past ⊆ later) : SubscriptionRead later subscription := by
  obtain ⟨id, known⟩ := read
  exact ⟨id, known.mono grown⟩

end Mono

end SafeCameroon.Access
