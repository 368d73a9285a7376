import SafeCameroon.Api.Sessions

namespace SafeCameroon.Sessions

open Table Process Incidents

variable (hmac : Hmac) (issuer : ReviewerSessionTokenIssuer)

section Conversation

@[reducible] def check (session : VerifiedSession) : Call :=
  .incident (.isSessionRevoked session.reviewerId session.issuedAt)

inductive Established (headers : List (String × Bytes)) (requestId : Uuid) :
    List (Exchange sessionInterface) → Except HandlerError Actor → Prop where
  | clockless (failure : Failure) (message : String) :
      Established headers requestId [⟨.now, .error failure⟩] (.error (.panicked message))
  | panicked (read : Nat) (message : String)
      (verified : verification hmac issuer read headers = .error message) :
      Established headers requestId [⟨.now, .ok read⟩] (.error (.panicked message))
  | automated (read : Nat) (absent : header "authorization" headers = none) :
      Established headers requestId [⟨.now, .ok read⟩] (.ok .automated)
  | malformed (read : Nat) (present : header "authorization" headers ≠ none)
      (bare : presentedToken headers = none) :
      Established headers requestId [⟨.now, .ok read⟩]
        (.error (.api (Reviewer.invalidAuthorizationHeader requestId)))
  | invalid (read : Nat) (present : header "authorization" headers ≠ none)
      (verified : verification hmac issuer read headers = .ok none) :
      Established headers requestId [⟨.now, .ok read⟩]
        (.error (.api (Reviewer.invalidOrExpiredSession requestId)))
  | unchecked (read : Nat) (session : VerifiedSession) (failure : Failure) (error : HandlerError)
      (verified : verification hmac issuer read headers = .ok (some session))
      (shown : failure = .database →
        error = .api (Reviewer.sessionRevocationCheckFailed requestId)) :
      Established headers requestId [⟨check session, .error failure⟩, ⟨.now, .ok read⟩]
        (.error error)
  | revoked (read : Nat) (session : VerifiedSession)
      (verified : verification hmac issuer read headers = .ok (some session)) :
      Established headers requestId [⟨check session, .ok true⟩, ⟨.now, .ok read⟩]
        (.error (.api (Reviewer.invalidOrExpiredSession requestId)))
  | accepted (read : Nat) (session : VerifiedSession)
      (verified : verification hmac issuer read headers = .ok (some session)) :
      Established headers requestId [⟨check session, .ok false⟩, ⟨.now, .ok read⟩]
        (.ok (.reviewer session.reviewerId))

inductive Proper (job : Job) : List (Exchange sessionInterface) → Call → Prop where
  | clock : Proper job [] .now
  | check (read : Nat) (headers : List (String × Bytes)) (session : VerifiedSession)
      (presented : job.headers = some headers)
      (verified : verification hmac issuer read headers = .ok (some session)) :
      Proper job [⟨.now, .ok read⟩] (check session)
  | revoke (read : Nat) (session : VerifiedSession) (asks : job.headers ≠ none) :
      Proper job [⟨Sessions.check session, .ok false⟩, ⟨.now, .ok read⟩]
        (.revokeAllSessions session.reviewerId)
  | record (past : List (Exchange sessionInterface)) (reviewerId requestId : Uuid)
      (asks : job.headers ≠ none) :
      Proper job past (.recordLogout reviewerId requestId)

theorem proper_incident {job : Job} {past : List (Exchange sessionInterface)} {call : Incidents.Call}
    (proper : Proper hmac issuer job past (.incident call)) :
    ∃ read headers session, past = [⟨.now, .ok read⟩] ∧
      call = .isSessionRevoked session.reviewerId session.issuedAt ∧ job.headers = some headers ∧
      verification hmac issuer read headers = .ok (some session) := by
  cases proper with
  | check read headers session presented verified =>
      exact ⟨read, headers, session, rfl, rfl, presented, verified⟩

theorem actorFromHeaders_honest (job : Job) (headers : List (String × Bytes)) (requestId : Uuid)
    (presented : job.headers = some headers) :
    (actorFromHeaders hmac issuer headers requestId).Honest (Proper hmac issuer job)
      (Established hmac issuer headers requestId) [] := by
  refine ⟨.clock, fun clocked => ?_⟩
  cases clocked with
  | error failure => exact .clockless failure _
  | ok read =>
      simp only [Proc.bind]
      cases verified : verification hmac issuer read headers with
      | error message => exact .panicked read message verified
      | ok result =>
          cases value : header "authorization" headers with
          | none =>
              simp only [Reviewer.actorFromHeaders, value]
              exact .automated read value
          | some bytes =>
              have present : header "authorization" headers ≠ none := by
                rw [value]
                exact Option.some_ne_none bytes
              have shown : presentedToken headers = (headerText bytes).bind Reviewer.bearerToken := by
                simp [presentedToken, value]
              cases token : (headerText bytes).bind Reviewer.bearerToken with
              | none =>
                  simp only [Reviewer.actorFromHeaders, value, token]
                  exact .malformed read present (shown.trans token)
              | some token' =>
                  simp only [Reviewer.actorFromHeaders, value, token]
                  cases result with
                  | none => exact .invalid read present verified
                  | some session =>
                      refine ⟨.check read headers session presented verified, fun answer => ?_⟩
                      cases answer with
                      | error failure =>
                          refine .unchecked read session failure _ verified ?_
                          intro same
                          rw [same]
                      | ok revoked =>
                          cases revoked with
                          | true => exact .revoked read session verified
                          | false => exact .accepted read session verified

/-- How a job ends: as establishing who makes the request ended, or once the sessions of whoever makes
it were to be ended. -/
inductive Ended (job : Job) : List (Exchange sessionInterface) → Except HandlerError Outcome → Prop where
  | login (reviewerId : Uuid) (read : Nat) (logsIn : job = .login reviewerId) :
      Ended job [⟨.now, .ok read⟩] (.ok (.token (issuer.issue hmac (read / second) reviewerId)))
  | clockless (reviewerId : Uuid) (failure : Failure) (error : HandlerError)
      (logsIn : job = .login reviewerId) : Ended job [⟨.now, .error failure⟩] (.error error)
  | request (headers : List (String × Bytes)) (requestId : Uuid)
      (past : List (Exchange sessionInterface)) (actor : Except HandlerError Actor)
      (result : Except HandlerError Outcome) (asks : job = .request headers requestId)
      (established : Established hmac issuer headers requestId past actor)
      (same : result = actor.map .actor) : Ended job past result
  | refused (headers : List (String × Bytes)) (requestId : Uuid)
      (past : List (Exchange sessionInterface)) (error : HandlerError)
      (asks : job = .logout headers requestId)
      (established : Established hmac issuer headers requestId past (.error error)) :
      Ended job past (.error error)
  | anonymous (headers : List (String × Bytes)) (requestId : Uuid)
      (past : List (Exchange sessionInterface)) (asks : job = .logout headers requestId)
      (established : Established hmac issuer headers requestId past (.ok .automated)) :
      Ended job past (.error (.api (notAuthenticated requestId)))
  | loggedOut (headers : List (String × Bytes)) (requestId reviewerId : Uuid)
      (before past : List (Exchange sessionInterface)) (answer : Except Failure Unit)
      (result : Except HandlerError Outcome) (asks : job = .logout headers requestId)
      (established : Established hmac issuer headers requestId before (.ok (.reviewer reviewerId)))
      (kept : before ⊆ past) (ends : ⟨.revokeAllSessions reviewerId, answer⟩ ∈ past)
      (plain : ∀ actor, result ≠ .ok (.actor actor)) : Ended job past result

theorem revoke_of_established {headers : List (String × Bytes)} {requestId reviewerId : Uuid}
    {job : Job} {past : List (Exchange sessionInterface)} (asks : job.headers ≠ none)
    (established : Established hmac issuer headers requestId past (.ok (.reviewer reviewerId))) :
    Proper hmac issuer job past (.revokeAllSessions reviewerId) := by
  cases established with
  | accepted read session verified => exact .revoke read session asks

theorem job_honest (job : Job) :
    (program hmac issuer job).Honest (Proper hmac issuer job) (Ended hmac issuer job) [] := by
  cases job with
  | login reviewerId =>
      refine ⟨.clock, fun clocked => ?_⟩
      cases clocked with
      | error failure => exact .clockless reviewerId failure _ rfl
      | ok read => exact .login reviewerId read rfl
  | request headers requestId =>
      have established := actorFromHeaders_honest hmac issuer (.request headers requestId) headers
        requestId rfl
      apply Proc.honest_bind _ _ _ _ _ established
      · intro past actor known
        exact .request headers requestId past (.ok actor) _ rfl known rfl
      · intro past error known
        exact .request headers requestId past (.error error) _ rfl known rfl
  | logout headers requestId =>
      have established := actorFromHeaders_honest hmac issuer (.logout headers requestId) headers
        requestId rfl
      have asks : (Job.logout headers requestId).headers ≠ none := Option.some_ne_none headers
      simp only [program, logout, Proc.bind_def, Proc.map_def, Proc.bind_assoc]
      apply Proc.honest_bind _ _ _ _ _ established
      · intro past actor known
        cases actor with
        | automated => exact .anonymous headers requestId past rfl known
        | reviewer reviewerId =>
            refine ⟨revoke_of_established hmac issuer asks known, fun ended => ?_⟩
            have ends : ∀ later answer, (⟨.revokeAllSessions reviewerId, answer⟩ :
                Exchange sessionInterface) ∈
                  later ++ [⟨.revokeAllSessions reviewerId, answer⟩] ++ past := by
              intro later answer
              simp
            have kept : ∀ later : List (Exchange sessionInterface), past ⊆ later ++ past :=
              fun later => List.subset_append_right later past
            cases ended with
            | error failure =>
                exact .loggedOut headers requestId reviewerId past _ _ _ rfl known (kept [_])
                  (ends [] _) (fun _ same => by cases same)
            | ok done =>
                refine ⟨.record _ reviewerId requestId asks, fun recorded => ?_⟩
                cases recorded with
                | error failure =>
                    exact .loggedOut headers requestId reviewerId past _ _ _ rfl known (kept [_, _])
                      (ends [_] _) (fun _ same => by cases same)
                | ok done =>
                    exact .loggedOut headers requestId reviewerId past _ _ _ rfl known (kept [_, _])
                      (ends [_] _) (fun _ same => by cases same)
      · intro past error known
        exact .refused headers requestId past error rfl known

def Admits (past : List (Exchange sessionInterface)) (result : Except HandlerError Outcome)
    (reviewerId : Uuid) : Prop :=
  result = .ok (.actor (.reviewer reviewerId)) ∨
    ∃ answer, ⟨.revokeAllSessions reviewerId, answer⟩ ∈ past

variable {hmac issuer}

theorem established_of_ended {job : Job} {past : List (Exchange sessionInterface)}
    {result : Except HandlerError Outcome} {headers : List (String × Bytes)}
    (ended : Ended hmac issuer job past result) (presented : job.headers = some headers) :
    ∃ requestId before actor, Established hmac issuer headers requestId before actor ∧
      before ⊆ past ∧ (∀ error, actor = .error error → result = .error error) ∧
      ∀ reviewerId, actor = .ok (.reviewer reviewerId) → Admits past result reviewerId := by
  cases ended with
  | login reviewerId read logsIn =>
      rw [logsIn] at presented
      cases presented
  | clockless reviewerId failure error logsIn =>
      rw [logsIn] at presented
      cases presented
  | request shown requestId past actor result asks established same =>
      rw [asks] at presented
      cases presented
      refine ⟨requestId, past, actor, established, List.Subset.refl past, ?_, ?_⟩
      · intro error failed
        rw [same, failed]
        rfl
      · intro reviewerId reviews
        rw [same, reviews]
        exact Or.inl rfl
  | refused shown requestId past error asks established =>
      rw [asks] at presented
      cases presented
      refine ⟨requestId, past, .error error, established, List.Subset.refl past, ?_, ?_⟩
      · intro other same
        cases same
        rfl
      · intro reviewerId reviews
        cases reviews
  | anonymous shown requestId past asks established =>
      rw [asks] at presented
      cases presented
      refine ⟨requestId, past, .ok .automated, established, List.Subset.refl past, ?_, ?_⟩
      · intro error failed
        cases failed
      · intro reviewerId reviews
        cases reviews
  | loggedOut shown requestId reviewerId before past answer result asks established kept ends plain =>
      rw [asks] at presented
      cases presented
      refine ⟨requestId, before, .ok (.reviewer reviewerId), established, kept, ?_, ?_⟩
      · intro error failed
        cases failed
      · intro other reviews
        cases reviews
        exact Or.inr ⟨answer, ends⟩

theorem passed_of_ended {job : Job} {past : List (Exchange sessionInterface)} {reviewerId : Uuid}
    (ended : Ended hmac issuer job past (.ok (.actor (.reviewer reviewerId)))) :
    ∃ issuedAt, ⟨check { reviewerId, issuedAt }, .ok false⟩ ∈ past := by
  cases ended with
  | request headers requestId past actor result asks established same =>
      cases actor with
      | error error => cases same
      | ok actor =>
          cases same
          cases established with
          | accepted read session verified => exact ⟨session.issuedAt, List.mem_cons_self⟩
  | loggedOut headers requestId other before past answer result asks established kept ends plain =>
      exact absurd rfl (plain _)

theorem absent_of_ended {job : Job} {past : List (Exchange sessionInterface)}
    {headers : List (String × Bytes)}
    (ended : Ended hmac issuer job past (.ok (.actor .automated)))
    (presented : job.headers = some headers) : header "authorization" headers = none := by
  cases ended with
  | request shown requestId past actor result asks established same =>
      rw [asks] at presented
      cases presented
      cases actor with
      | error error => cases same
      | ok actor =>
          cases same
          cases established with
          | automated read absent => exact absent
  | loggedOut shown requestId other before past answer result asks established kept ends plain =>
      exact absurd rfl (plain _)

theorem passed_of_proper {job : Job} {past : List (Exchange sessionInterface)} {reviewerId : Uuid}
    (proper : Proper hmac issuer job past (.revokeAllSessions reviewerId)) :
    ∃ issuedAt, ⟨check { reviewerId, issuedAt }, .ok false⟩ ∈ past := by
  cases proper with
  | revoke read session asks => exact ⟨session.issuedAt, List.mem_cons_self⟩

theorem login_of_proper {job : Job} {past : List (Exchange sessionInterface)} {call : Call}
    {reviewerId : Uuid} (proper : Proper hmac issuer job past call)
    (logsIn : job = .login reviewerId) : past = [] := by
  have bare : job.headers = none := by
    rw [logsIn]
    rfl
  cases proper with
  | clock => rfl
  | check read headers session presented verified =>
      rw [bare] at presented
      cases presented
  | revoke read session asks => exact absurd bare asks
  | record past reviewerId requestId asks => exact absurd bare asks

theorem token_of_ended {job : Job} {past : List (Exchange sessionInterface)}
    {result : Except HandlerError Outcome} {reviewerId : Uuid} {issuedAt : Nat}
    (ended : Ended hmac issuer job past result) (logsIn : job = .login reviewerId)
    (asked : ⟨.now, .ok issuedAt⟩ ∈ past) :
    result = .ok (.token (issuer.issue hmac (issuedAt / second) reviewerId)) := by
  cases ended with
  | login other read named =>
      rw [logsIn] at named
      cases named
      cases List.mem_singleton.mp asked
      rfl
  | clockless other failure error named => cases List.mem_singleton.mp asked
  | request headers requestId past actor result asks established same =>
      rw [logsIn] at asks
      cases asks
  | refused headers requestId past error asks established =>
      rw [logsIn] at asks
      cases asks
  | anonymous headers requestId past asks established =>
      rw [logsIn] at asks
      cases asks
  | loggedOut headers requestId other before past answer result asks established kept ends plain =>
      rw [logsIn] at asks
      cases asks

end Conversation

section History

def LoggedOut (init : List SessionRow) (reviewerId : Uuid)
    (history : List (Process.Entry sessionInterface)) (time : Nat) : Prop :=
  (∃ row, lookup (·.reviewerId) reviewerId init = some row ∧ row.sessionsRevokedAt = some time) ∨
    ∃ pid, ⟨pid, .revokeAllSessions reviewerId, .ok (), time⟩ ∈ history

/-- A reviewer's row holds the time of the latest logout. -/
structure Kept (init : List SessionRow) (world : World) : Prop where
  known : world.store.map (·.reviewerId) = init.map (·.reviewerId)
  past : ∀ reviewerId time, LoggedOut init reviewerId world.history time → time ≤ world.clock
  covered : ∀ reviewerId row time, lookup (·.reviewerId) reviewerId world.store = some row →
    LoggedOut init reviewerId world.history time →
    ∃ latest, row.sessionsRevokedAt = some latest ∧ time ≤ latest
  logged : ∀ reviewerId row latest, lookup (·.reviewerId) reviewerId world.store = some row →
    row.sessionsRevokedAt = some latest → LoggedOut init reviewerId world.history latest

theorem kept_initial (init : List SessionRow) (start : Nat)
    (past : ∀ row ∈ init, ∀ time, row.sessionsRevokedAt = some time → time ≤ start) :
    Kept init (Journal.initial init start) where
  known := rfl
  past := by
    intro reviewerId time ended
    cases ended with
    | inl before =>
        obtain ⟨row, found, stamped⟩ := before
        exact past row (List.mem_of_find?_eq_some found) time stamped
    | inr during =>
        obtain ⟨pid, member⟩ := during
        cases member
  covered := by
    intro reviewerId row time found ended
    cases ended with
    | inl before =>
        obtain ⟨other, found', stamped⟩ := before
        have same : other = row := Option.some.inj (found'.symm.trans found)
        rw [same] at stamped
        exact ⟨time, stamped, Nat.le_refl time⟩
    | inr during =>
        obtain ⟨pid, member⟩ := during
        cases member
  logged := fun reviewerId row latest found stamped => Or.inl ⟨row, found, stamped⟩

theorem unstamped_iff (stamp : Option Nat) (limit : Nat) :
    (stamp.map fun revokedAt => decide (limit < revokedAt)).getD false = false ↔
      ∀ latest, stamp = some latest → latest ≤ limit := by
  cases stamp with
  | none => simp
  | some latest => simp

theorem passes_iff {init : List SessionRow} {world : World} (kept : Kept init world)
    (reviewerId : Uuid) (issuedAt : Nat) :
    isSessionRevoked reviewerId issuedAt world.store = false ↔
      reviewerId ∈ init.map (·.reviewerId) ∧
        ∀ time, LoggedOut init reviewerId world.history time → time ≤ issuedAt * second := by
  rw [← kept.known, isSessionRevoked]
  cases found : lookup (·.reviewerId) reviewerId world.store with
  | none =>
      have absent : reviewerId ∉ world.store.map (·.reviewerId) := by
        intro member
        obtain ⟨row, inStore, mine⟩ := List.mem_map.mp member
        have missing := List.find?_eq_none.mp found row inStore
        simp [mine] at missing
      simp [absent]
  | some row =>
      have present : reviewerId ∈ world.store.map (·.reviewerId) := by
        have mine : row.reviewerId = reviewerId := by simpa using List.find?_some found
        exact List.mem_map.mpr ⟨row, List.mem_of_find?_eq_some found, mine⟩
      simp only [present, true_and]
      rw [unstamped_iff]
      constructor
      · intro early time ended
        obtain ⟨latest, stamped, before⟩ := kept.covered reviewerId row time found ended
        exact Nat.le_trans before (early latest stamped)
      · intro early latest stamped
        exact early latest (kept.logged reviewerId row latest found stamped)

theorem Kept.untouched {init : List SessionRow} {world : World} (kept : Kept init world)
    (entry : Process.Entry sessionInterface) (clock : Nat) (forward : world.clock ≤ clock)
    (other : ∀ pid reviewerId time, entry ≠ ⟨pid, .revokeAllSessions reviewerId, .ok (), time⟩) :
    Kept init { store := world.store, clock, history := entry :: world.history } := by
  have same : ∀ reviewerId time, LoggedOut init reviewerId (entry :: world.history) time ↔
      LoggedOut init reviewerId world.history time := by
    intro reviewerId time
    simp only [LoggedOut, List.mem_cons]
    constructor
    · intro ended
      cases ended with
      | inl before => exact Or.inl before
      | inr during =>
          obtain ⟨pid, latest | member⟩ := during
          · exact absurd latest.symm (other pid reviewerId time)
          · exact Or.inr ⟨pid, member⟩
    · intro ended
      cases ended with
      | inl before => exact Or.inl before
      | inr during =>
          obtain ⟨pid, member⟩ := during
          exact Or.inr ⟨pid, Or.inr member⟩
  constructor
  · exact kept.known
  · intro reviewerId time ended
    exact Nat.le_trans (kept.past reviewerId time ((same reviewerId time).mp ended)) forward
  · intro reviewerId row time found ended
    exact kept.covered reviewerId row time found ((same reviewerId time).mp ended)
  · intro reviewerId row latest found stamped
    exact (same reviewerId latest).mpr (kept.logged reviewerId row latest found stamped)

theorem Kept.revoke {init : List SessionRow} {world : World} (kept : Kept init world)
    (pid clock : Nat) (forward : world.clock ≤ clock) (reviewerId : Uuid) :
    Kept init { store := revokeAllSessions clock reviewerId world.store, clock
                history := ⟨pid, .revokeAllSessions reviewerId, .ok (), clock⟩ :: world.history } := by
  have ended_iff : ∀ other time,
      LoggedOut init other (⟨pid, .revokeAllSessions reviewerId, .ok (), clock⟩ :: world.history) time ↔
        (other = reviewerId ∧ time = clock) ∨ LoggedOut init other world.history time := by
    intro other time
    simp only [LoggedOut, List.mem_cons]
    constructor
    · intro ended
      cases ended with
      | inl before => exact Or.inr (Or.inl before)
      | inr during =>
          obtain ⟨caller, latest | member⟩ := during
          · cases latest
            exact Or.inl ⟨rfl, rfl⟩
          · exact Or.inr (Or.inr ⟨caller, member⟩)
    · intro ended
      cases ended with
      | inl latest =>
          rw [latest.1, latest.2]
          exact Or.inr ⟨pid, Or.inl rfl⟩
      | inr before =>
          cases before with
          | inl before => exact Or.inl before
          | inr during =>
              obtain ⟨caller, member⟩ := during
              exact Or.inr ⟨caller, Or.inr member⟩
  have changed : ∀ other, lookup (·.reviewerId) other (revokeAllSessions clock reviewerId world.store) =
      (lookup (·.reviewerId) other world.store).map fun row =>
        if other = reviewerId then { row with sessionsRevokedAt := some clock } else row :=
    fun other => lookup_updateWhere (·.reviewerId) reviewerId other
      (fun row => { row with sessionsRevokedAt := some clock }) world.store (fun _ => rfl)
  constructor
  · rw [← kept.known]
    exact map_key_updateWhere _ _ _ _ (fun _ => rfl)
  · intro other time ended
    cases (ended_iff other time).mp ended with
    | inl latest => exact Nat.le_of_eq latest.2
    | inr before => exact Nat.le_trans (kept.past other time before) forward
  · intro other row time found ended
    rw [changed other] at found
    obtain ⟨old, present, rfl⟩ := Option.map_eq_some_iff.mp found
    by_cases mine : other = reviewerId
    · rw [if_pos mine]
      refine ⟨clock, rfl, ?_⟩
      cases (ended_iff other time).mp ended with
      | inl latest => exact Nat.le_of_eq latest.2
      | inr before => exact Nat.le_trans (kept.past other time before) forward
    · rw [if_neg mine]
      cases (ended_iff other time).mp ended with
      | inl latest => exact absurd latest.1 mine
      | inr before => exact kept.covered other old time present before
  · intro other row latest found stamped
    rw [changed other] at found
    obtain ⟨old, present, rfl⟩ := Option.map_eq_some_iff.mp found
    by_cases mine : other = reviewerId
    · rw [if_pos mine] at stamped
      exact (ended_iff other latest).mpr (Or.inl ⟨mine, (Option.some.inj stamped).symm⟩)
    · rw [if_neg mine] at stamped
      exact (ended_iff other latest).mpr (Or.inr (kept.logged other old latest present stamped))

/-- The clock was read: the answer is the time, a login is of a reviewer who is there, and the
signature that a request presents was made before. -/
structure Clocked (jobs : Nat → Job) (init : List SessionRow) (pid : Nat)
    (answer : Except Failure Nat) (time : Nat) (before : List (Process.Entry sessionInterface)) :
    Prop where
  exactly : answer = .ok time
  known : ∀ reviewerId, jobs pid = .login reviewerId →
    reviewerId ∈ init.map (·.reviewerId) ∧ time / second + issuer.ttl < 2 ^ 64
  unforged : ∀ headers token text, (jobs pid).headers = some headers →
    presentedToken headers = some token →
    ReviewerSessionTokenIssuer.presentedSignature token = some (hmac issuer.secret text) →
    Signed issuer jobs before text

/-- A session was looked up: one that its request presents, and it passed where every logout came
before its second. -/
structure Checked (jobs : Nat → Job) (init : List SessionRow) (pid : Nat) (session : VerifiedSession)
    (answer : Except Failure Bool) (before : List (Process.Entry sessionInterface)) : Prop where
  asked : ∃ headers read, (jobs pid).headers = some headers ∧
    verification hmac issuer read headers = .ok (some session) ∧ ⟨pid, .now, .ok read, read⟩ ∈ before
  answered : answer = .error .database ∨ ∃ revoked, answer = .ok revoked ∧
    (revoked = false ↔ session.reviewerId ∈ init.map (·.reviewerId) ∧
      ∀ time, LoggedOut init session.reviewerId before time → time ≤ session.issuedAt * second)

/-- What holds of a call after the calls before it. -/
def law (jobs : Nat → Job) (init : List SessionRow) :
    Process.Entry sessionInterface → List (Process.Entry sessionInterface) → Prop
  | ⟨pid, .now, answer, time⟩, before => Clocked hmac issuer jobs init pid answer time before
  | ⟨pid, .incident (.isSessionRevoked reviewerId issuedAt), answer, _⟩, before =>
      Checked hmac issuer jobs init pid { reviewerId, issuedAt } answer before
  | _, _ => True

structure Sound (jobs : Nat → Job) (init : List SessionRow) (world : World) : Prop where
  kept : Kept init world
  lawful : Journal.Lawful (law hmac issuer jobs init) world.history

theorem sound_execute (jobs : Nat → Job) (init : List SessionRow) (pid : Nat) (call : Call)
    (occasion : Occasion) (world : World)
    (allowed : (sessionRules hmac issuer jobs).mayCall pid call occasion world)
    (proper : Proper hmac issuer (jobs pid) (Journal.trace pid world) call)
    (sound : Sound hmac issuer jobs init world) :
    Sound hmac issuer jobs init (Journal.execute runCall pid call occasion world).2 := by
  have forward := allowed.1
  cases call with
  | now =>
      have admissible := allowed.2 rfl
      constructor
      · exact sound.kept.untouched _ _ forward (fun _ _ _ same => by cases same)
      · refine ⟨?_, sound.lawful⟩
        constructor
        · rfl
        · intro reviewerId logsIn
          rw [← sound.kept.known]
          exact admissible.known reviewerId logsIn
        · exact admissible.unforged
  | recordLogout reviewerId requestId =>
      simp only [Journal.execute, runCall]
      split
      · constructor
        · exact sound.kept.untouched _ _ forward (fun _ _ _ same => by cases same)
        · exact ⟨trivial, sound.lawful⟩
      · constructor
        · exact sound.kept.untouched _ _ forward (fun _ _ _ same => by cases same)
        · exact ⟨trivial, sound.lawful⟩
  | revokeAllSessions reviewerId =>
      simp only [Journal.execute, runCall]
      split
      · constructor
        · exact sound.kept.untouched _ _ forward (fun _ _ _ same => by cases same)
        · exact ⟨trivial, sound.lawful⟩
      · constructor
        · exact sound.kept.revoke pid occasion.now forward reviewerId
        · exact ⟨trivial, sound.lawful⟩
  | incident call =>
      obtain ⟨read, headers, session, past, rfl, presented, verified⟩ :=
        proper_incident hmac issuer proper
      have asking : ⟨pid, .now, .ok read, read⟩ ∈ world.history := by
        have mine : ⟨.now, .ok read⟩ ∈ Journal.trace pid world := by
          rw [past]
          exact List.mem_singleton_self _
        obtain ⟨time, made⟩ := (Journal.mem_trace pid world .now (.ok read)).mp mine
        obtain ⟨_, before, _, clocked⟩ := sound.lawful.mem made
        have same : read = time := Except.ok.inj clocked.exactly
        rw [same] at made ⊢
        exact made
      have asked : ∃ headers read, (jobs pid).headers = some headers ∧
          verification hmac issuer read headers = .ok (some session) ∧
          ⟨pid, .now, .ok read, read⟩ ∈ world.history := ⟨headers, read, presented, verified, asking⟩
      simp only [Journal.execute, runCall]
      split
      · constructor
        · exact sound.kept.untouched _ _ forward (fun _ _ _ same => by cases same)
        · exact ⟨⟨asked, Or.inl rfl⟩, sound.lawful⟩
      · constructor
        · exact sound.kept.untouched _ _ forward (fun _ _ _ same => by cases same)
        · refine ⟨⟨asked, Or.inr ⟨_, rfl, ?_⟩⟩, sound.lawful⟩
          exact passes_iff sound.kept session.reviewerId session.issuedAt

end History

section Runs

def Stamped (init : List SessionRow) (start : Nat) : Prop :=
  ∀ row ∈ init, ∀ time, row.sessionsRevokedAt = some time → time ≤ start

variable {hmac issuer} {jobs : Nat → Job} {init : List SessionRow} {start : Nat} {config : Pool}

theorem told_sessions (reached : Reaches hmac issuer jobs init start config) (pid : Nat) :
    Told (Journal.recorded runCall) (fun pid => Proper hmac issuer (jobs pid))
      (fun pid => Ended hmac issuer (jobs pid)) config pid :=
  Journal.told (fun pid => job_honest hmac issuer (jobs pid)) reached pid

theorem sound_reach (stamped : Stamped init start)
    (reached : Reaches hmac issuer jobs init start config) :
    Sound hmac issuer jobs init config.state := by
  have minded := Journal.minded (fun pid => job_honest hmac issuer (jobs pid)) reached
  refine reach_holds _ _ _ (Sound hmac issuer jobs init) ?_ ?_ config minded
  · exact ⟨kept_initial init start stamped, trivial⟩
  · intro pid call occasion world allowed sound
    exact sound_execute hmac issuer jobs init pid call occasion world allowed.1 allowed.2 sound

theorem ended_of_slot (reached : Reaches hmac issuer jobs init start config) {pid : Nat}
    {rest : Handler Outcome} (slot : config.slots pid = .active rest)
    (stopped : (config.slots pid).running = false) :
    ∃ result, Ended hmac issuer (jobs pid) (Journal.trace pid config.state) result ∧
      ((∃ outcome, rest = .done outcome ∧ result = .ok outcome) ∨
        ∃ error, rest = .fail error ∧ result = .error error) := by
  have told := told_sessions reached pid
  simp only [Told, slot] at told
  cases rest with
  | call call next =>
      rw [slot] at stopped
      cases stopped
  | done outcome => exact ⟨.ok outcome, told, Or.inl ⟨outcome, rfl, rfl⟩⟩
  | fail error => exact ⟨.error error, told, Or.inr ⟨error, rfl, rfl⟩⟩

def Accepts (config : Pool) (pid : Nat) (reviewerId : Uuid) : Prop :=
  config.slots pid = .active (.done (.actor (.reviewer reviewerId))) ∨
    ∃ answer, ⟨.revokeAllSessions reviewerId, answer⟩ ∈ Journal.trace pid config.state

theorem passed_of_accepts (reached : Reaches hmac issuer jobs init start config) {pid : Nat}
    {reviewerId : Uuid} (accepts : Accepts config pid reviewerId) :
    ∃ issuedAt, ⟨check { reviewerId, issuedAt }, .ok false⟩ ∈ Journal.trace pid config.state := by
  cases accepts with
  | inl slot =>
      have told := told_sessions reached pid
      simp only [Told, slot] at told
      exact passed_of_ended told
  | inr revokes =>
      obtain ⟨answer, made⟩ := revokes
      have justified := Journal.justified (fun pid => job_honest hmac issuer (jobs pid)) reached pid
      obtain ⟨past, kept, proper⟩ := justified.earlier made
      obtain ⟨issuedAt, passed⟩ := passed_of_proper proper
      exact ⟨issuedAt, kept passed⟩

theorem token_of_clock (reached : Reaches hmac issuer jobs init start config) {pid : Nat}
    {reviewerId : Uuid} {issuedAt : Nat} (logsIn : jobs pid = .login reviewerId)
    (asked : ⟨.now, .ok issuedAt⟩ ∈ Journal.trace pid config.state) :
    config.slots pid =
      .active (.done (.token (issuer.issue hmac (issuedAt / second) reviewerId))) := by
  have told := told_sessions reached pid
  cases slot : config.slots pid with
  | waiting =>
      simp only [Told, slot] at told
      rw [show Journal.trace pid config.state = [] from told] at asked
      cases asked
  | gone =>
      obtain ⟨call, proper⟩ := Journal.dropped
        (fun pid => job_honest hmac issuer (jobs pid)) reached pid slot
      rw [show Journal.trace pid config.state = [] from login_of_proper proper logsIn] at asked
      cases asked
  | active rest =>
      simp only [Told, slot] at told
      cases rest with
      | call call next =>
          rw [show Journal.trace pid config.state = [] from login_of_proper told.1 logsIn] at asked
          cases asked
      | done outcome =>
          cases token_of_ended told logsIn asked
          rfl
      | fail error => cases token_of_ended told logsIn asked

end Runs

section Tokens

variable {hmac issuer}

theorem headerText_ascii {value : Bytes} {text : String} (read : headerText value = some text) :
    ∀ c ∈ text.toList, c.utf8Size = 1 := by
  unfold headerText at read
  split at read
  · rename_i plain
    cases read
    intro c member
    rw [String.toList_ofList] at member
    obtain ⟨byte, inValue, rfl⟩ := List.mem_map.mp member
    have visible := List.all_eq_true.mp plain byte inValue
    simp only [Bool.or_eq_true, Bool.and_eq_true, decide_eq_true_eq, beq_iff_eq] at visible
    have small : byte.toNat ≤ 127 := by
      cases visible with
      | inl printable =>
          have low : byte.toNat < 127 := printable.2
          omega
      | inr tab =>
          rw [tab]
          decide
    have table : ∀ code : Fin 128, (Char.ofNat code.val).utf8Size = 1 := by decide
    exact table ⟨byte.toNat, by omega⟩
  · cases read

theorem presentedToken_ascii {headers : List (String × Bytes)} {token : String}
    (presented : presentedToken headers = some token) : ∀ c ∈ token.toList, c.utf8Size = 1 := by
  obtain ⟨text, read, bearer⟩ := Option.bind_eq_some_iff.mp presented
  obtain ⟨value, _, readable⟩ := Option.bind_eq_some_iff.mp read
  unfold Reviewer.bearerToken at bearer
  split at bearer
  · cases bearer
    intro c member
    rw [String.toList_ofList] at member
    exact headerText_ascii readable c (List.mem_of_mem_drop member)
  · cases bearer

theorem verification_ok (now : Nat) (headers : List (String × Bytes)) :
    ∃ result, verification hmac issuer now headers = .ok result := by
  unfold verification
  split
  · exact ⟨none, rfl⟩
  · rename_i token presented
    exact ReviewerSessionTokenIssuer.verify_ascii _ token (presentedToken_ascii presented)

theorem token_of_verification {now : Nat} {headers : List (String × Bytes)}
    {session : VerifiedSession} (verified : verification hmac issuer now headers = .ok (some session)) :
    ∃ token, presentedToken headers = some token ∧
      issuer.verify hmac (now / second) token = .ok (some session) := by
  unfold verification at verified
  split at verified
  · cases verified
  · rename_i token presented
    exact ⟨token, presented, verified⟩

theorem verification_token {now : Nat} {headers : List (String × Bytes)} {token : String}
    (presented : presentedToken headers = some token) :
    verification hmac issuer now headers = issuer.verify hmac (now / second) token := by
  rw [verification, presented]

end Tokens

section Lifecycle

structure Issues (jobs : Nat → Job) (config : Pool) (pid : Nat) (reviewerId : Uuid) (issuedAt : Nat) :
    Prop where
  logsIn : jobs pid = .login reviewerId
  read : ⟨.now, .ok issuedAt⟩ ∈ Journal.trace pid config.state
  answers : config.slots pid =
    .active (.done (.token (issuer.issue hmac (issuedAt / second) reviewerId)))

/-- What lets a token pass as the reviewer's, by a clock and the calls before the check of it: an
earlier login of the reviewer issued one with this expiry, which is not past, under the same secret,
and no logout of the reviewer came after that. -/
structure Entitles (jobs : Nat → Job) (init : List SessionRow) (config : Pool) (token : String)
    (reviewerId : Uuid) (read : Nat) (before : List (Process.Entry sessionInterface))
    (login issuedAt : Nat) : Prop where
  issues : Issues hmac issuer jobs config login reviewerId issuedAt
  earlier : ⟨login, .now, .ok issuedAt, issuedAt⟩ ∈ before
  names : ∃ signature, ReviewerSessionTokenIssuer.claims token =
    some (reviewerId, issuedAt / second + issuer.ttl, signature)
  signed : ReviewerSessionTokenIssuer.presentedSignature token = some (hmac issuer.secret
    (ReviewerSessionTokenIssuer.signedText reviewerId (issuedAt / second + issuer.ttl)))
  current : read / second ≤ issuedAt / second + issuer.ttl
  unended : ∀ time, LoggedOut init reviewerId before time → time ≤ issuedAt

def refusals (requestId : Uuid) : List ApiError :=
  [Reviewer.invalidAuthorizationHeader requestId, Reviewer.invalidOrExpiredSession requestId,
    Reviewer.sessionRevocationCheckFailed requestId]

structure Lifecycle (jobs : Nat → Job) (init : List SessionRow) (config : Pool) : Prop where
  /-- Only a token that entitles to it passes as a reviewer's. -/
  sound : ∀ pid reviewerId, Accepts config pid reviewerId →
    ∃ headers token read session later time before login issuedAt,
      (jobs pid).headers = some headers ∧ presentedToken headers = some token ∧
      session.reviewerId = reviewerId ∧
      config.state.history = later ++ ⟨pid, check session, .ok false, time⟩ :: before ∧
      ⟨pid, .now, .ok read, read⟩ ∈ before ∧
      Entitles hmac issuer jobs init config token reviewerId read before login issuedAt
  /-- A token passes until it expires that was issued in a later second than every logout before the
  check of it, if the check can be made. -/
  complete : ∀ pid headers login reviewerId issuedAt, (jobs pid).headers = some headers →
    Issues hmac issuer jobs config login reviewerId issuedAt →
    presentedToken headers = some (issuer.issue hmac (issuedAt / second) reviewerId).token →
    (∃ rest, config.slots pid = .active rest) → (config.slots pid).running = false →
    (∀ read, ⟨.now, .ok read⟩ ∈ Journal.trace pid config.state →
      read / second ≤ issuedAt / second + issuer.ttl) →
    (∀ session failure, ⟨check session, .error failure⟩ ∉ Journal.trace pid config.state) →
    (∀ later session answer time before,
      config.state.history = later ++ ⟨pid, check session, answer, time⟩ :: before →
      ∀ ended, LoggedOut init reviewerId before ended → ended / second < issuedAt / second) →
    Accepts config pid reviewerId
  /-- A request with a header is a reviewer's or it is refused. -/
  refused : ∀ pid headers, (jobs pid).headers = some headers →
    header "authorization" headers ≠ none →
    (∃ rest, config.slots pid = .active rest) → (config.slots pid).running = false →
    (∃ reviewerId, Accepts config pid reviewerId) ∨ ∃ requestId, ∃ error ∈ refusals requestId,
      config.slots pid = .active (.fail (.api error))
  /-- Only a request without a header is nobody's. -/
  automated : ∀ pid headers requestId, jobs pid = .request headers requestId →
    config.slots pid = .active (.done (.actor .automated)) → header "authorization" headers = none
  /-- No header makes verification panic. -/
  steady : ∀ now headers, ∃ result, verification hmac issuer now headers = .ok result

variable {hmac issuer} {jobs : Nat → Job} {init : List SessionRow} {start : Nat} {config : Pool}

theorem clock_of_issued {history before : List (Process.Entry sessionInterface)} {reviewerId : Uuid}
    {issuedAt : Nat} (lawful : Journal.Lawful (law hmac issuer jobs init) history)
    (among : before ⊆ history) (issued : Issued jobs before reviewerId issuedAt) :
    ∃ login, jobs login = .login reviewerId ∧ ⟨login, .now, .ok issuedAt, issuedAt⟩ ∈ before := by
  obtain ⟨⟨login, op, answer, time⟩, made, logsIn, asks, same⟩ := issued
  dsimp only at logsIn asks same
  subst asks same
  obtain ⟨_, _, _, clocked⟩ := lawful.mem (among made)
  have shown : answer = .ok time := clocked.exactly
  rw [shown] at made
  exact ⟨login, logsIn, made⟩

theorem issues_of_clock (reached : Reaches hmac issuer jobs init start config) {login : Nat}
    {reviewerId : Uuid} {issuedAt : Nat} (logsIn : jobs login = .login reviewerId)
    (asked : ⟨login, .now, .ok issuedAt, issuedAt⟩ ∈ config.state.history) :
    Issues hmac issuer jobs config login reviewerId issuedAt := by
  have read := (Journal.mem_trace login config.state .now (.ok issuedAt)).mpr ⟨_, asked⟩
  exact ⟨logsIn, read, token_of_clock reached logsIn read⟩

theorem lifecycle_sound (stamped : Stamped init start)
    (reached : Reaches hmac issuer jobs init start config) {pid : Nat} {reviewerId : Uuid}
    (accepts : Accepts config pid reviewerId) :
    ∃ headers token read session later time before login issuedAt,
      (jobs pid).headers = some headers ∧ presentedToken headers = some token ∧
      session.reviewerId = reviewerId ∧
      config.state.history = later ++ ⟨pid, check session, .ok false, time⟩ :: before ∧
      ⟨pid, .now, .ok read, read⟩ ∈ before ∧
      Entitles hmac issuer jobs init config token reviewerId read before login issuedAt := by
  have sound := sound_reach stamped reached
  obtain ⟨passedAt, passed⟩ := passed_of_accepts reached accepts
  obtain ⟨time, made⟩ := (Journal.mem_trace pid config.state _ _).mp passed
  obtain ⟨later, before, split, checked⟩ := sound.lawful.mem made
  obtain ⟨headers, read, presented, verified, asked⟩ := checked.asked
  obtain ⟨token, shown, verifies⟩ := token_of_verification verified
  obtain ⟨expiresAt, signature, names, current, reconstructed, signed⟩ :=
    ReviewerSessionTokenIssuer.verify_some verifies
  -- The signature was made by a login before the clock was read for this request.
  have lawful : Journal.Lawful (law hmac issuer jobs init)
      (later ++ [⟨pid, check { reviewerId, issuedAt := passedAt }, .ok false, time⟩] ++ before) := by
    rw [List.append_assoc, List.singleton_append, ← split]
    exact sound.lawful
  obtain ⟨between, first, split', clocked⟩ := lawful.earlier.mem asked
  obtain ⟨signer, issuedAt, issued, text⟩ := clocked.unforged headers token _ presented shown signed
  obtain ⟨same, expiry⟩ := ReviewerSessionTokenIssuer.signedText_injective text
  dsimp only at same reconstructed names signed
  subst same expiry
  have inBefore : first ⊆ before := by
    rw [split']
    exact List.subset_append_of_subset_right _ (List.subset_cons_self _ _)
  have inHistory : before ⊆ config.state.history := by
    rw [split]
    exact List.subset_append_of_subset_right _ (List.subset_cons_self _ _)
  obtain ⟨login, logsIn, logged⟩ :=
    clock_of_issued sound.lawful (fun _ member => inHistory (inBefore member)) issued
  have answered : ∀ ended, LoggedOut init reviewerId before ended → ended ≤ passedAt * second := by
    cases checked.answered with
    | inl failed => cases failed
    | inr verdict =>
        obtain ⟨revoked, same, passes⟩ := verdict
        cases same
        exact (passes.mp rfl).2
  rw [Nat.add_sub_cancel] at reconstructed
  refine ⟨headers, token, read, _, later, time, before, login, issuedAt, presented, shown, rfl, split,
    asked, ?_⟩
  exact {
    issues := issues_of_clock reached logsIn (inHistory (inBefore logged))
    earlier := inBefore logged
    names := ⟨signature, names⟩
    signed := signed
    current := current
    unended := by
      intro ended out
      have floor := answered ended out
      rw [reconstructed] at floor
      exact Nat.le_trans floor (Nat.div_mul_le_self issuedAt second) }

theorem law_of_trace (sound : Sound hmac issuer jobs init config.state) {pid : Nat} {call : Call}
    {answer : Except Failure call.Res} (made : ⟨call, answer⟩ ∈ Journal.trace pid config.state) :
    ∃ later time before, config.state.history = later ++ ⟨pid, call, answer, time⟩ :: before ∧
      law hmac issuer jobs init ⟨pid, call, answer, time⟩ before := by
  obtain ⟨time, member⟩ := (Journal.mem_trace pid config.state call answer).mp made
  obtain ⟨later, before, split, lawful⟩ := sound.lawful.mem member
  exact ⟨later, time, before, split, lawful⟩

theorem established_of_slot (reached : Reaches hmac issuer jobs init start config) {pid : Nat}
    {headers : List (String × Bytes)} (presented : (jobs pid).headers = some headers)
    (begun : ∃ rest, config.slots pid = .active rest)
    (stopped : (config.slots pid).running = false) :
    ∃ requestId before actor, Established hmac issuer headers requestId before actor ∧
      before ⊆ Journal.trace pid config.state ∧
      (∀ error, actor = .error error → config.slots pid = .active (.fail error)) ∧
      ∀ reviewerId, actor = .ok (.reviewer reviewerId) → Accepts config pid reviewerId := by
  obtain ⟨rest, slot⟩ := begun
  obtain ⟨result, ended, last⟩ := ended_of_slot reached slot stopped
  obtain ⟨requestId, before, actor, established, among, fails, admits⟩ :=
    established_of_ended ended presented
  refine ⟨requestId, before, actor, established, among, ?_, ?_⟩
  · intro error failed
    have same := fails error failed
    cases last with
    | inl done =>
        obtain ⟨outcome, _, ok⟩ := done
        rw [ok] at same
        cases same
    | inr failing =>
        obtain ⟨error', rest, same'⟩ := failing
        rw [same'] at same
        cases same
        rw [slot, rest]
  · intro reviewerId reviews
    cases admits reviewerId reviews with
    | inr revokes => exact Or.inr revokes
    | inl same =>
        cases last with
        | inl done =>
            obtain ⟨outcome, rest, ok⟩ := done
            rw [ok] at same
            cases same
            rw [rest] at slot
            exact Or.inl slot
        | inr failing =>
            obtain ⟨error', _, same'⟩ := failing
            rw [same'] at same
            cases same

theorem clocked (sound : Sound hmac issuer jobs init config.state) {pid : Nat} {failure : Failure}
    (made : ⟨.now, .error failure⟩ ∈ Journal.trace pid config.state) : False := by
  obtain ⟨_, _, _, _, clocked⟩ := law_of_trace sound made
  cases clocked.exactly

theorem lifecycle_complete (stamped : Stamped init start)
    (reached : Reaches hmac issuer jobs init start config) {pid login : Nat}
    {headers : List (String × Bytes)} {reviewerId : Uuid} {issuedAt : Nat}
    (presented : (jobs pid).headers = some headers)
    (issues : Issues hmac issuer jobs config login reviewerId issuedAt)
    (shown : presentedToken headers =
      some (issuer.issue hmac (issuedAt / second) reviewerId).token)
    (begun : ∃ rest, config.slots pid = .active rest)
    (stopped : (config.slots pid).running = false)
    (current : ∀ read, ⟨.now, .ok read⟩ ∈ Journal.trace pid config.state →
      read / second ≤ issuedAt / second + issuer.ttl)
    (checkable : ∀ session failure,
      ⟨check session, .error failure⟩ ∉ Journal.trace pid config.state)
    (unended : ∀ later session answer time before,
      config.state.history = later ++ ⟨pid, check session, answer, time⟩ :: before →
      ∀ ended, LoggedOut init reviewerId before ended → ended / second < issuedAt / second) :
    Accepts config pid reviewerId := by
  have sound := sound_reach stamped reached
  obtain ⟨known, small⟩ : reviewerId ∈ init.map (·.reviewerId) ∧
      issuedAt / second + issuer.ttl < 2 ^ 64 := by
    obtain ⟨_, time, _, _, clocked⟩ := law_of_trace sound issues.read
    have same : issuedAt = time := Except.ok.inj clocked.exactly
    rw [same]
    exact clocked.known reviewerId issues.logsIn
  have verifies : ∀ read, ⟨.now, .ok read⟩ ∈ Journal.trace pid config.state →
      verification hmac issuer read headers =
        .ok (some { reviewerId, issuedAt := issuedAt / second }) := by
    intro read asked
    rw [verification_token shown]
    exact ReviewerSessionTokenIssuer.verify_issue _ _ reviewerId small (current read asked)
  obtain ⟨requestId, before, actor, established, among, _, accepts⟩ :=
    established_of_slot reached presented begun stopped
  cases established with
  | clockless failure message => exact (clocked sound (among List.mem_cons_self)).elim
  | panicked read message verified =>
      rw [verifies read (among List.mem_cons_self)] at verified
      cases verified
  | automated read absent =>
      rw [presentedToken, absent] at shown
      cases shown
  | malformed read present bare =>
      rw [bare] at shown
      cases shown
  | invalid read present verified =>
      rw [verifies read (among List.mem_cons_self)] at verified
      cases verified
  | unchecked read session failure error verified shows =>
      exact absurd (among List.mem_cons_self) (checkable session failure)
  | revoked read session verified =>
      rw [verifies read (among (by simp))] at verified
      cases verified
      obtain ⟨later, time, earlier, split, checked⟩ :=
        law_of_trace sound (among List.mem_cons_self)
      cases checked.answered with
      | inl failed => cases failed
      | inr verdict =>
          obtain ⟨revoked, same, passes⟩ := verdict
          cases same
          have before : ∀ ended, LoggedOut init reviewerId earlier ended →
              ended ≤ issuedAt / second * second := by
            intro ended out
            have sooner := unended later _ _ time earlier split ended out
            exact Nat.le_of_lt ((Nat.div_lt_iff_lt_mul (by decide)).mp sooner)
          cases passes.mpr ⟨known, before⟩
  | accepted read session verified =>
      rw [verifies read (among (by simp))] at verified
      cases verified
      exact accepts reviewerId rfl

theorem lifecycle_refused (stamped : Stamped init start)
    (reached : Reaches hmac issuer jobs init start config) {pid : Nat}
    {headers : List (String × Bytes)} (presented : (jobs pid).headers = some headers)
    (given : header "authorization" headers ≠ none)
    (begun : ∃ rest, config.slots pid = .active rest)
    (stopped : (config.slots pid).running = false) :
    (∃ reviewerId, Accepts config pid reviewerId) ∨ ∃ requestId, ∃ error ∈ refusals requestId,
      config.slots pid = .active (.fail (.api error)) := by
  have sound := sound_reach stamped reached
  obtain ⟨requestId, before, actor, established, among, fails, accepts⟩ :=
    established_of_slot reached presented begun stopped
  cases established with
  | clockless failure message => exact (clocked sound (among List.mem_cons_self)).elim
  | panicked read message verified =>
      obtain ⟨result, same⟩ := @verification_ok hmac issuer read headers
      rw [same] at verified
      cases verified
  | automated read absent => exact absurd absent given
  | malformed read present bare =>
      exact Or.inr ⟨requestId, _, by simp [refusals], fails _ rfl⟩
  | invalid read present verified =>
      exact Or.inr ⟨requestId, _, by simp [refusals], fails _ rfl⟩
  | unchecked read session failure error verified shows =>
      obtain ⟨_, _, _, _, checked⟩ := law_of_trace sound (among List.mem_cons_self)
      have database : failure = .database := by
        cases checked.answered with
        | inl failed => exact Except.error.inj failed
        | inr verdict =>
            obtain ⟨_, same, _⟩ := verdict
            cases same
      rw [shows database] at fails
      exact Or.inr ⟨requestId, _, by simp [refusals], fails _ rfl⟩
  | revoked read session verified =>
      exact Or.inr ⟨requestId, _, by simp [refusals], fails _ rfl⟩
  | accepted read session verified => exact Or.inl ⟨_, accepts _ rfl⟩

/-- In every run of logins, logouts and requests, however they interleave, a token passes as its
reviewer's until it expires or its reviewer logs out, and nothing else passes. -/
theorem session_lifecycle (hmac : Hmac) (issuer : ReviewerSessionTokenIssuer) (jobs : Nat → Job)
    (init : List SessionRow) (start : Nat) (stamped : Stamped init start) (config : Pool)
    (reached : Reaches hmac issuer jobs init start config) :
    Lifecycle hmac issuer jobs init config where
  sound := fun pid reviewerId accepts => lifecycle_sound stamped reached accepts
  complete := fun pid headers login reviewerId issuedAt presented issues shown begun stopped current
    checkable unended =>
      lifecycle_complete stamped reached presented issues shown begun stopped current checkable unended
  refused := fun pid headers presented given begun stopped =>
    lifecycle_refused stamped reached presented given begun stopped
  automated := by
    intro pid headers requestId job slot
    have told := told_sessions reached pid
    simp only [Told, slot] at told
    have presented : (jobs pid).headers = some headers := by
      rw [job]
      rfl
    exact absent_of_ended told presented
  steady := fun now headers => verification_ok now headers

end Lifecycle

namespace Scenario

def ada : Uuid := 7

def testIssuer : ReviewerSessionTokenIssuer :=
  .new [116, 101, 115, 116, 45, 115, 101, 99, 114, 101, 116]

def signed : String := ReviewerSessionTokenIssuer.signedText ada 43300

def signature : Bytes :=
  [202, 91, 87, 255, 180, 149, 80, 51, 243, 80, 209, 170, 70, 111, 155, 87, 203, 15, 232, 44, 84,
    102, 215, 11, 119, 212, 94, 225, 228, 70, 124, 33]

def oneMac : Hmac := fun secret text =>
  if secret = testIssuer.secret ∧ text = signed then signature else []

def token : String := (testIssuer.issue oneMac 100 ada).token

def headers : List (String × Bytes) :=
  [("authorization", ("Bearer " ++ token).toList.map fun c => UInt8.ofNat c.toNat)]

def jobs : Nat → Job
  | 0 => .login ada
  | 2 => .logout headers 1
  | _ => .request headers 1

def occasion (time : Nat) : Occasion := { now := time * second + 5, fault := false }

def visit : List (Label Occasion) :=
  stretch (fun _ => occasion 100) 0 1 ++ stretch (fun _ => occasion 101) 1 2 ++
    stretch (fun _ => occasion 102) 2 4 ++ stretch (fun _ => occasion 103) 3 2

def init : List SessionRow := [{ reviewerId := ada, sessionsRevokedAt := none }]

/-- Time goes on, and Ada's login comes before anything that shows her token. -/
def inOrder (config : Pool) : Label Occasion → Bool
  | .call pid occasion => decide (config.state.clock ≤ occasion.now) &&
      (if pid = 0 then decide (occasion.now / second < 1000) &&
          (config.state.store.map (·.reviewerId)).contains ada
        else config.state.history.any fun entry => decide (entry.pid = 0) &&
          decide (entry.time = 100 * second + 5) && (match entry.op with
            | .now => true
            | _ => false))
  | _ => true

theorem presented_token : presentedToken headers = some token := by decide +kernel

theorem presented_signature :
    ReviewerSessionTokenIssuer.presentedSignature token = some signature := by decide +kernel

theorem signed_of_mac {text : String} (same : signature = oneMac testIssuer.secret text) :
    text = signed := by
  unfold oneMac at same
  split at same
  · rename_i both
    exact both.2
  · cases same

theorem inOrder_legal (config : Pool) (label : Label Occasion)
    (ordered : inOrder config label = true) :
    (sessionRules oneMac testIssuer jobs).legal config label := by
  cases label with
  | start pid => trivial
  | halt pid => exact fun _ _ _ => trivial
  | call pid occasion =>
      intro op next slot
      simp only [inOrder, Bool.and_eq_true, decide_eq_true_eq] at ordered
      refine ⟨ordered.1, fun _ => ?_⟩
      have rest := ordered.2
      by_cases login : pid = 0
      · subst login
        simp only [if_true, Bool.and_eq_true, decide_eq_true_eq] at rest
        constructor
        · intro reviewerId logsIn
          cases logsIn
          refine ⟨by simpa using rest.2, ?_⟩
          have small : occasion.now / second + testIssuer.ttl < 1000 + testIssuer.ttl :=
            Nat.add_lt_add_right rest.1 _
          exact Nat.lt_trans small (by decide)
        · intro shown token text presented
          cases presented
      · rw [if_neg login] at rest
        have own : (jobs pid).headers = some headers := by
          unfold jobs
          split
          · exact absurd rfl login
          · rfl
          · rfl
        constructor
        · intro reviewerId logsIn
          rw [logsIn] at own
          cases own
        · intro shown other text presented carried made
          rw [own] at presented
          cases presented
          rw [presented_token] at carried
          cases carried
          rw [presented_signature, Option.some.injEq] at made
          rw [signed_of_mac made]
          obtain ⟨entry, member, found⟩ := List.any_eq_true.mp rest
          simp only [Bool.and_eq_true, decide_eq_true_eq] at found
          refine ⟨ada, 100 * second + 5, ⟨entry, member, ?_, ?_, found.1.2⟩, by decide +kernel⟩
          · rw [found.1.1]
            rfl
          · cases call : entry.op with
            | now => rfl
            | incident call' => simp [call] at found
            | revokeAllSessions reviewerId => simp [call] at found
            | recordLogout reviewerId requestId => simp [call] at found

/-- Ada is known by her token until she logs out, and then refused. -/
def seen (config : Pool) : Bool :=
  (match config.slots 1 with
    | .active (.done (.actor (.reviewer reviewerId))) => decide (reviewerId = ada)
    | _ => false) &&
  (match config.slots 3 with
    | .active (.fail (.api error)) => decide (error = Reviewer.invalidOrExpiredSession 1)
    | _ => false)

theorem session_lifecycle_logout :
    ∃ config : Pool, seen config = true ∧ Lifecycle oneMac testIssuer jobs init config := by
  have shown : ((play (fun pid => program oneMac testIssuer (jobs pid)) inOrder visit
      (initially (Journal.initial init 0) : Pool)).any seen) = true := by
    decide +kernel
  obtain ⟨config, arrived, last, _⟩ := play_reaches _ _ _ inOrder_legal _ _ shown
  have stamped : Stamped init 0 := by
    intro row member time revokedAt
    cases List.mem_singleton.mp member
    cases revokedAt
  exact ⟨config, last, session_lifecycle oneMac testIssuer jobs init 0 stamped config arrived⟩

end Scenario

end SafeCameroon.Sessions
