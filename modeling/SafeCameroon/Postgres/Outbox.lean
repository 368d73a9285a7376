import SafeCameroon.Postgres.Schema

namespace SafeCameroon

open Table

structure ClaimedOutboxEvent where
  id : Uuid
  aggregateId : Uuid
  payload : Json

namespace PostgresOutboxRepository

def claimable (eventType : String) (row : OutboxRow) : Bool :=
  decide (row.eventType = eventType) && row.publishedAt.isNone && row.claimedAt.isNone

/-- Locks up to `limit` claimable rows that no other transaction holds, and marks them claimed. -/
def claimUnpublished (now : Timestamp) (tie : Uuid → Nat) (locked : List Uuid) (eventType : String)
    (limit : Nat) (db : Db) : Except Failure (Ending Db (List ClaimedOutboxEvent)) := do
  let free := db.outboxEvents.filter fun row => claimable eventType row && decide (row.id ∉ locked)
  let rows := (orderBy (·.createdAt) (fun row => tie row.id) free).take limit
  let ids := rows.map (·.id)
  let outboxEvents := updateWhere (fun row : OutboxRow => decide (row.id ∈ ids))
    (fun row => { row with claimedAt := some now }) db.outboxEvents
  return .commit
    (rows.map fun row => { id := row.id, aggregateId := row.aggregateId, payload := row.payload })
    { db with outboxEvents }

def markPublished (now : Timestamp) (id : Uuid) (db : Db) : Except Failure (Ending Db Unit) := do
  let outboxEvents := updateWhere (fun row : OutboxRow => decide (row.id = id))
    (fun row => { row with publishedAt := some now }) db.outboxEvents
  return .commit () { db with outboxEvents }

end PostgresOutboxRepository

end SafeCameroon
