import SafeCameroon.Postgres.Schema

namespace SafeCameroon

open Table

namespace PostgresAuditEventRepository

/-- Records sensitive access, for the organization that was looked up before. -/
def record (auditEventId actorId : Uuid) (organizationId : Option OrganizationId)
    (action resourceType : String) (resourceId : Option Uuid) (requestId : Uuid) (db : Db) :
    Except Failure (Ending Db Unit) := do
  let row : AuditRow :=
    { id := auditEventId, actorType := "REVIEWER", actorId := some actorId
      organizationId, action, resourceType, resourceId, requestId }
  let auditEvents ← insertUnique .database (·.id) row db.auditEvents
  return .commit () { db with auditEvents }

end PostgresAuditEventRepository

end SafeCameroon
