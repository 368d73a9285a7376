import SafeCameroon.Access.Effects

namespace SafeCameroon.Access

open Table Process

/-- What the constraints of the accounts' tables promise. -/
structure AccountsSound (reviewers : List ReviewerRow) (memberships : List MembershipRow) : Prop where
  ids : (reviewers.map (·.id)).Nodup
  once : (memberships.map (·.reviewerId)).Nodup
  shaped : ∀ row ∈ memberships, membershipShape row.role row.organizationId = true
  known : ∀ row ∈ memberships, row.reviewerId ∈ reviewers.map (·.id)

structure OwnersSound (organizations : List OrganizationRow) (consumers : List ConsumerRow) :
    Prop where
  ids : (organizations.map (·.id)).Nodup
  once : ∀ one ∈ organizations, ∀ other ∈ organizations, ∀ consumerId,
    one.consumerId = some consumerId → other.consumerId = some consumerId → one.id = other.id
  known : ∀ row ∈ organizations, ∀ consumerId, row.consumerId = some consumerId →
    consumerId ∈ consumers.map (·.id)

/-- What the constraints of the tables promise. -/
structure Sound (registry : Registry) : Prop where
  accounts : AccountsSound registry.reviewers registry.tables.memberships
  owners : OwnersSound registry.tables.organizations registry.tables.consumers
  subscriptionIds : (registry.tables.subscriptions.map (·.subscription.id)).Nodup
  tokens : ∀ entry ∈ registry.managementTokenHashes,
    entry.1 ∈ registry.tables.consumers.map (·.id)

namespace AccountsSound

variable {reviewers : List ReviewerRow} {memberships : List MembershipRow}

theorem addReviewer (sound : AccountsSound reviewers memberships) (row : ReviewerRow)
    (unused : row.id ∉ reviewers.map (·.id)) : AccountsSound (reviewers ++ [row]) memberships := by
  refine { sound with ids := ?_, known := ?_ }
  · rw [List.map_append]
    exact nodup_snoc _ _ sound.ids unused
  · intro membership member
    rw [List.map_append]
    exact List.mem_append_left _ (sound.known membership member)

theorem addMembership (sound : AccountsSound reviewers memberships) (row : MembershipRow)
    (known : row.reviewerId ∈ reviewers.map (·.id))
    (shaped : membershipShape row.role row.organizationId = true)
    (unused : row.reviewerId ∉ memberships.map (·.reviewerId)) :
    AccountsSound reviewers (memberships ++ [row]) := by
  constructor
  · exact sound.ids
  · rw [List.map_append]
    exact nodup_snoc _ _ sound.once unused
  · intro other member
    rcases List.mem_append.mp member with earlier | new
    · exact sound.shaped other earlier
    · rw [List.mem_singleton.mp new]
      exact shaped
  · intro other member
    rcases List.mem_append.mp member with earlier | new
    · exact sound.known other earlier
    · rw [List.mem_singleton.mp new]
      exact known

theorem unique (sound : AccountsSound reviewers memberships) {one other : MembershipRow}
    (first : one ∈ memberships) (second : other ∈ memberships)
    (same : one.reviewerId = other.reviewerId) : one = other :=
  eq_of_key (·.reviewerId) memberships sound.once one other first second same

end AccountsSound

namespace OwnersSound

variable {organizations : List OrganizationRow} {consumers : List ConsumerRow}

theorem addConsumer (sound : OwnersSound organizations consumers) (row : ConsumerRow) :
    OwnersSound organizations (consumers ++ [row]) := by
  refine { sound with known := ?_ }
  intro owner member consumerId owns
  rw [List.map_append]
  exact List.mem_append_left _ (sound.known owner member consumerId owns)

theorem addOrganization (sound : OwnersSound organizations consumers) (row : OrganizationRow)
    (unlinked : row.consumerId = none) (unused : row.id ∉ organizations.map (·.id)) :
    OwnersSound (organizations ++ [row]) consumers := by
  have earlier : ∀ owner ∈ organizations ++ [row], ∀ consumerId,
      owner.consumerId = some consumerId → owner ∈ organizations := by
    intro owner member consumerId owns
    rcases List.mem_append.mp member with before | new
    · exact before
    · rw [List.mem_singleton.mp new, unlinked] at owns
      cases owns
  constructor
  · rw [List.map_append]
    exact nodup_snoc _ _ sound.ids unused
  · intro one first other second consumerId owns alsoOwns
    exact sound.once one (earlier one first consumerId owns) other
      (earlier other second consumerId alsoOwns) consumerId owns alsoOwns
  · intro owner member consumerId owns
    exact sound.known owner (earlier owner member consumerId owns) consumerId owns

theorem update (sound : OwnersSound organizations consumers) (id : OrganizationId)
    (change : OrganizationRow → OrganizationRow) (keepsId : ∀ row, (change row).id = row.id)
    (keepsConsumer : ∀ row, (change row).consumerId = row.consumerId) :
    OwnersSound (updateWhere (fun row => decide (row.id = id)) change organizations) consumers := by
  have before : ∀ row ∈ updateWhere (fun row => decide (row.id = id)) change organizations,
      ∃ old ∈ organizations, row.id = old.id ∧ row.consumerId = old.consumerId := by
    intro row member
    obtain ⟨old, stored, ⟨_, rfl⟩ | ⟨_, rfl⟩⟩ := (mem_updateWhere _ _ _ _).mp member
    · exact ⟨old, stored, keepsId old, keepsConsumer old⟩
    · exact ⟨row, stored, rfl, rfl⟩
  constructor
  · rw [map_key_updateWhere _ _ _ _ keepsId]
    exact sound.ids
  · intro one first other second consumerId owns alsoOwns
    obtain ⟨old, stored, sameId, sameConsumer⟩ := before one first
    obtain ⟨older, alsoStored, alsoId, alsoConsumer⟩ := before other second
    rw [sameId, alsoId]
    exact sound.once old stored older alsoStored consumerId (sameConsumer ▸ owns)
      (alsoConsumer ▸ alsoOwns)
  · intro row member consumerId owns
    obtain ⟨old, stored, _, sameConsumer⟩ := before row member
    exact sound.known old stored consumerId (sameConsumer ▸ owns)

theorem link (sound : OwnersSound organizations consumers) (id : OrganizationId)
    (consumerId : ConsumerId) (known : consumerId ∈ consumers.map (·.id))
    (free : ∀ row ∈ organizations, row.consumerId = some consumerId → row.id = id) :
    OwnersSound (updateWhere (fun row => decide (row.id = id))
      (fun row => { row with consumerId := some consumerId }) organizations) consumers := by
  have owner : ∀ row ∈ updateWhere (fun row => decide (row.id = id))
      (fun row : OrganizationRow => { row with consumerId := some consumerId }) organizations,
      ∀ wanted, row.consumerId = some wanted → (row.id = id ∧ wanted = consumerId) ∨
        (row.id ≠ id ∧ row ∈ organizations) := by
    intro row member wanted owns
    obtain ⟨old, stored, ⟨chosen, rfl⟩ | ⟨others, rfl⟩⟩ := (mem_updateWhere _ _ _ _).mp member
    · exact Or.inl ⟨of_decide_eq_true chosen, (Option.some.inj owns).symm⟩
    · exact Or.inr ⟨of_decide_eq_false others, stored⟩
  constructor
  · have column := map_key_updateWhere (fun row : OrganizationRow => row.id)
      (fun row => decide (row.id = id)) (fun row => { row with consumerId := some consumerId })
      organizations fun _ => rfl
    rw [column]
    exact sound.ids
  · intro one first other second wanted owns alsoOwns
    rcases owner one first wanted owns with ⟨chosen, rfl⟩ | ⟨apart, stored⟩
    · rcases owner other second _ alsoOwns with ⟨alsoChosen, _⟩ | ⟨alsoApart, alsoStored⟩
      · rw [chosen, alsoChosen]
      · exact absurd (free other alsoStored alsoOwns) alsoApart
    · rcases owner other second wanted alsoOwns with ⟨_, rfl⟩ | ⟨_, alsoStored⟩
      · exact absurd (free one stored owns) apart
      · exact sound.once one stored other alsoStored wanted owns alsoOwns
  · intro row member wanted owns
    rcases owner row member wanted owns with ⟨_, rfl⟩ | ⟨_, stored⟩
    · exact known
    · exact sound.known row stored wanted owns

end OwnersSound

variable {lower : PostgresReviewerRepository.Lower}

theorem Sound.effect {env : Env} {registry after : Registry} {call : Call}
    {answer : Except Failure call.Res} (sound : Sound registry)
    (effect : Effect lower env registry call answer after) : Sound after := by
  cases effect with
  | idle _ => exact sound
  | audited auditEvents _ => exact { sound with }
  | preferenceSet => exact { sound with }
  | reviewerCreated unused =>
      refine { sound with accounts := sound.accounts.addReviewer _ ?_ }
      intro taken
      obtain ⟨row, member, same⟩ := List.mem_map.mp taken
      exact (unused row member).1 same
  | memberAdded known shaped unused =>
      exact { sound with accounts := sound.accounts.addMembership _ known shaped unused }
  | organizationCreated unused =>
      exact { sound with owners := sound.owners.addOrganization _ rfl unused }
  | activeSet => exact { sound with owners := sound.owners.update _ _ (fun _ => rfl) fun _ => rfl }
  | linked known free => exact { sound with owners := sound.owners.link _ _ known free }
  | consumerCreated unused =>
      refine { sound with owners := sound.owners.addConsumer _, tokens := ?_ }
      intro entry member
      have before := sound.tokens entry member
      simp only [Registry.with, List.map_append, List.mem_append]
      exact Or.inl before
  | citizenCreated unused =>
      refine { sound with owners := sound.owners.addConsumer _, tokens := ?_ }
      intro entry member
      simp only [List.map_append, List.mem_append]
      rcases List.mem_append.mp member with earlier | new
      · exact Or.inl (sound.tokens entry earlier)
      · rw [List.mem_singleton.mp new]
        exact Or.inr List.mem_cons_self
  | subscriptionCreated unused =>
      refine { sound with subscriptionIds := ?_ }
      simp only [Registry.with, List.map_append, List.map_cons, List.map_nil]
      exact nodup_snoc _ _ sound.subscriptionIds unused
  | @subscriptionUpdated auditEventId subscription actor requestId auditEvents single =>
      refine { sound with subscriptionIds := ?_ }
      have column := map_key_updateWhere (fun row : SubscriptionRow => row.subscription.id)
        (PostgresSubscriptionRepository.outdated subscription)
        (PostgresSubscriptionRepository.revised subscription) registry.tables.subscriptions
        fun _ => rfl
      exact column ▸ sound.subscriptionIds
  | subscriptionDeleted =>
      refine { sound with subscriptionIds := ?_ }
      exact sound.subscriptionIds.sublist (List.filter_sublist.map _)

end SafeCameroon.Access
