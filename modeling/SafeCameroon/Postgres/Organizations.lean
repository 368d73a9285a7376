import SafeCameroon.Postgres.Schema

namespace SafeCameroon

open Table

/-- The check on the memberships: exactly the platform admins belong to no organization. -/
def membershipShape (role : Role) (organizationId : Option OrganizationId) : Bool :=
  match role with
  | .platformAdmin => organizationId.isNone
  | .orgAdmin | .member => organizationId.isSome

namespace PostgresOrganizationRepository

def create (id : OrganizationId) (db : Db) : Except Failure (Ending Db Unit) := do
  let row : OrganizationRow :=
    { id, verifiedIncidentTypes := [], verifiedAlertVisibilities := [], consumerId := none
      isActive := true }
  let organizations ← insertUnique .database (·.id) row db.organizations
  return .commit () { db with organizations }

def findById (id : OrganizationId) (db : Db) : Option Organization :=
  (lookup (·.id) id db.organizations).map fun row =>
    { id := row.id, verifiedIncidentTypes := row.verifiedIncidentTypes
      verifiedAlertVisibilities := row.verifiedAlertVisibilities, consumerId := row.consumerId
      isActive := row.isActive }

def update (id : OrganizationId) (change : OrganizationRow → OrganizationRow) (db : Db) : Db :=
  { db with organizations := updateWhere (fun row => decide (row.id = id)) change db.organizations }

def setActive (id : OrganizationId) (isActive : Bool) (db : Db) : Except Failure (Ending Db Unit) :=
  .ok (.commit () (update id (fun row => { row with isActive }) db))

def setConsumerId (id : OrganizationId) (consumerId : ConsumerId) (db : Db) :
    Except Failure (Ending Db Unit) :=
  if consumerId ∉ db.consumers.map (·.id) then .error .database
  else if db.organizations.any fun row => row.id ≠ id && row.consumerId = some consumerId then
    .error .database
  else .ok (.commit () (update id (fun row => { row with consumerId := some consumerId }) db))

def findOrganizationIdByConsumerId (consumerId : ConsumerId) (db : Db) : Option OrganizationId :=
  (db.organizations.find? fun row => row.consumerId = some consumerId).map (·.id)

def setTrustGrants (id : OrganizationId) (verifiedIncidentTypes : List IncidentType)
    (verifiedAlertVisibilities : List AlertVisibility) (db : Db) : Except Failure (Ending Db Unit) :=
  .ok (.commit () (update id
    (fun row => { row with verifiedIncidentTypes, verifiedAlertVisibilities }) db))

def addMembership (reviewerId : Uuid) (role : Role) (organizationId : Option OrganizationId)
    (db : Db) : Except Failure (Ending Db Unit) := do
  if membershipShape role organizationId = false then .error .database
  else if organizationId.any fun id => id ∉ db.organizations.map (·.id) then .error .database
  else
    let memberships ← insertUnique .database (·.reviewerId) { reviewerId, role, organizationId }
      db.memberships
    return .commit () { db with memberships }

def findMembership (reviewerId : Uuid) (db : Db) : Except Failure (Option Membership) :=
  match lookup (·.reviewerId) reviewerId db.memberships with
  | none => .ok none
  | some row => do
      let role ← expect
        "reviewer_organization_memberships.role is constrained by the reviewer_role enum"
        (Role.fromDatabaseValue row.role.asDatabaseValue)
      return some { role, organizationId := row.organizationId }

section Effects

variable {db after : Db} {value : Unit}

def newRow (id : OrganizationId) : OrganizationRow :=
  { id, verifiedIncidentTypes := [], verifiedAlertVisibilities := [], consumerId := none
    isActive := true }

theorem create_ok (id : OrganizationId) (h : create id db = .ok (.commit value after)) :
    after = { db with organizations := db.organizations ++ [newRow id] } ∧
      id ∉ db.organizations.map (·.id) := by
  simp only [create, bind_ok, pure, Except.pure, Except.ok.injEq, Ending.commit.injEq] at h
  obtain ⟨organizations, inserted, _, rfl⟩ := h
  obtain ⟨rfl, unused⟩ := insertUnique_ok _ _ _ _ _ inserted
  exact ⟨rfl, unused⟩

theorem setActive_ok (id : OrganizationId) (isActive : Bool)
    (h : setActive id isActive db = .ok (.commit value after)) :
    after = update id (fun row => { row with isActive }) db := by
  simp only [setActive, Except.ok.injEq, Ending.commit.injEq] at h
  exact h.2.symm

theorem setConsumerId_ok (id : OrganizationId) (consumerId : ConsumerId)
    (h : setConsumerId id consumerId db = .ok (.commit value after)) :
    after = update id (fun row => { row with consumerId := some consumerId }) db ∧
      consumerId ∈ db.consumers.map (·.id) ∧
      ∀ row ∈ db.organizations, row.consumerId = some consumerId → row.id = id := by
  simp only [setConsumerId] at h
  split at h
  · simp at h
  · rename_i known
    split at h
    · simp at h
    · rename_i free
      simp only [Except.ok.injEq, Ending.commit.injEq] at h
      refine ⟨h.2.symm, by simpa using known, fun row member owns => ?_⟩
      have others := List.any_eq_false.mp (Bool.eq_false_iff.mpr free) row member
      simpa [owns] using others

theorem addMembership_ok (reviewerId : Uuid) (role : Role) (organizationId : Option OrganizationId)
    (h : addMembership reviewerId role organizationId db = .ok (.commit value after)) :
    after = { db with memberships := db.memberships ++ [{ reviewerId, role, organizationId }] } ∧
      membershipShape role organizationId = true ∧
      reviewerId ∉ db.memberships.map (·.reviewerId) := by
  simp only [addMembership] at h
  split at h
  · simp at h
  · rename_i shaped
    split at h
    · simp at h
    · simp only [bind_ok, pure, Except.pure, Except.ok.injEq, Ending.commit.injEq] at h
      obtain ⟨memberships, inserted, _, rfl⟩ := h
      obtain ⟨rfl, unused⟩ := insertUnique_ok _ _ _ _ _ inserted
      exact ⟨rfl, by simpa using shaped, unused⟩

theorem addMembership_new (reviewerId : Uuid) (role : Role) (organizationId : Option OrganizationId)
    (shaped : membershipShape role organizationId = true)
    (known : ∀ id, organizationId = some id → id ∈ db.organizations.map (·.id))
    (unused : reviewerId ∉ db.memberships.map (·.reviewerId)) :
    addMembership reviewerId role organizationId db = .ok (.commit ()
      { db with memberships := db.memberships ++ [{ reviewerId, role, organizationId }] }) := by
  have present : (organizationId.any fun id => id ∉ db.organizations.map (·.id)) = false := by
    cases organizationId with
    | none => rfl
    | some id => simpa using known id rfl
  have inserted := insertUnique_new Failure.database MembershipRow.reviewerId
    { reviewerId, role, organizationId } db.memberships unused
  simp only [addMembership, shaped, Bool.true_eq_false, if_false, present, Bool.false_eq_true, bind_ok]
  exact ⟨_, inserted, rfl⟩

end Effects

end PostgresOrganizationRepository

end SafeCameroon
