import SafeCameroon.Api.Auth

namespace SafeCameroon.Access.AlertReading

open Process Text Incidents

def notAuthorized (requestId : Uuid) : ApiError :=
  { status := 403, code := "NOT_AUTHORIZED"
    message := "Only an identified reviewer may list alerts.", requestId }

def viewNotAuthorized (requestId : Uuid) : ApiError :=
  { status := 403, code := "NOT_AUTHORIZED"
    message := "Only an identified reviewer may view an alert.", requestId }

def auditAlertRead (fresh : Supply) (actor : Actor) (resourceId : Option Uuid) (requestId : Uuid) :
    Access.Handler Unit :=
  match actor with
  | .automated => Access.refuse (Alerts.alertNotFound requestId)
  | .reviewer actorId => Access.orFail (Alerts.persistenceFailed requestId)
      (.recordAlertViewed (fresh 0) actorId resourceId requestId)

structure ListAlertsQuery where
  filter : AlertFilter
  limit : Option Nat
  offset : Option Nat

def ListAlertsQuery.pageLimit (query : ListAlertsQuery) : Nat := min (query.limit.getD 50) 100

def ListAlertsQuery.pageOffset (query : ListAlertsQuery) : Nat := query.offset.getD 0

/-- What the scan has found: the alerts for the page, and how many matched. -/
structure Scan where
  selected : List Alert
  matched : Nat

/-- Takes one batch in; it stops as soon as the page is full. -/
def Scan.batch (canRead : Alert → Bool) (limit offset : Nat) : List Alert → Scan → Scan
  | [], scan => scan
  | alert :: alerts, scan =>
      if canRead alert then
        let selected := if scan.matched ≥ offset then scan.selected ++ [alert] else scan.selected
        let scan := { selected, matched := scan.matched + 1 }
        if scan.selected.length = limit then scan else Scan.batch canRead limit offset alerts scan
      else Scan.batch canRead limit offset alerts scan

/-- The loop over batches of one hundred, for as many turns as the fuel allows. -/
def scanAlerts (canRead : Alert → Bool) (filter : AlertFilter) (limit offset : Nat)
    (requestId : Uuid) : Nat → Nat → Scan → Access.Handler (List Alert)
  | 0, _, _ => .fail (.panicked "out of fuel")
  | fuel + 1, scanOffset, scan => do
      let batch ← Access.orFail (Alerts.persistenceFailed requestId)
        (.listAlerts filter 100 scanOffset)
      let scan := Scan.batch canRead limit offset batch scan
      if batch.length < 100 ∨ scan.selected.length = limit then return scan.selected
      else scanAlerts canRead filter limit offset requestId fuel (scanOffset + 100) scan

/-- The alerts of a page. A reviewer whose organization subscribes to nothing is shown nothing. -/
def pageOf (unicode : UnicodeData) (fuel : Nat) (access : Alerts.AlertAccess)
    (query : ListAlertsQuery) (requestId : Uuid) : Access.Handler (List Alert) :=
  if access.membership.role = .platformAdmin then
    Access.orFail (Alerts.persistenceFailed requestId)
      (.listAlerts query.filter query.pageLimit query.pageOffset)
  else if access.subscriptions.isEmpty || query.pageLimit = 0 then return []
  else scanAlerts (access.canRead unicode) query.filter query.pageLimit query.pageOffset requestId
    fuel 0 { selected := [], matched := 0 }

def listAlerts (unicode : UnicodeData) (verify : String → Option VerifiedSession) (fuel : Nat)
    (fresh : Supply) (headers : List (String × Bytes)) (query : ListAlertsQuery)
    (requestId : Uuid) : Access.Handler (List Alerts.AlertResponse) := do
  let actor ← lift (Reviewer.actorFromHeaders verify headers requestId)
  match authorize actor .viewCase with
  | .error _ => Access.refuse (notAuthorized requestId)
  | .ok () =>
      let access ← lift (Alerts.alertAccess actor requestId)
      let alerts ← pageOf unicode fuel access query requestId
      auditAlertRead fresh actor none requestId
      return alerts.map (access.response unicode)

def getAlert (unicode : UnicodeData) (verify : String → Option VerifiedSession) (fresh : Supply)
    (headers : List (String × Bytes)) (alertId : AlertId) (requestId : Uuid) :
    Access.Handler Alerts.AlertResponse := do
  let actor ← lift (Reviewer.actorFromHeaders verify headers requestId)
  match authorize actor .viewCase with
  | .error _ => Access.refuse (viewNotAuthorized requestId)
  | .ok () =>
      match ← Access.orFail (Alerts.persistenceFailed requestId) (.incident (.findAlert alertId)) with
      | none => Access.refuse (Alerts.alertNotFound requestId)
      | some alert =>
          let access ← lift (Alerts.alertAccess actor requestId)
          if access.canRead unicode alert then
            auditAlertRead fresh actor (some alertId.uuid) requestId
            return access.response unicode alert
          else Access.refuse (Alerts.alertNotFound requestId)

end SafeCameroon.Access.AlertReading
