import SafeCameroon.Access.Accounts
import SafeCameroon.Access.HandlerCalls

namespace SafeCameroon.Access

open Process Proc Text

variable {server : Server} {job : Job} {request : Auth.RegisterRequest} {α β : Type}

/-- What is known while a request still only reads. -/
structure Reading (job : Job) (start past : Past) : Prop where
  untouched : Untouched job past
  grown : start ⊆ past

theorem Reading.next {start past : Past} (reading : Reading job start past) (call : Call)
    (answer : Except Failure call.Res) (elsewhere : Elsewhere call) :
    Reading job start (⟨call, answer⟩ :: past) where
  untouched := reading.untouched.next call answer elsewhere
  grown := List.Subset.trans reading.grown (List.subset_cons_self _ _)

/-- The program only reads, and the fact holds of its result. -/
def Learns (server : Server) (job : Job) (fact : Past → α → Prop) (program : Handler α)
    (past : Past) : Prop :=
  program.Honest (AccountsProper server job)
    (fun later result => Reading job past later ∧ ∀ value, result = .ok value → fact later value) past

theorem learns_done (fact : Past → α → Prop) (value : α) (past : Past)
    (untouched : Untouched job past) (holds : fact past value) :
    Learns server job fact (.done value) past := by
  refine ⟨⟨untouched, List.Subset.refl past⟩, ?_⟩
  intro other same
  cases same
  exact holds

theorem learns_ask (error : ApiError) (call : Call) (past : Past) (untouched : Untouched job past)
    (allowed : accountsAllowed server job past call) (elsewhere : Elsewhere call) :
    Learns server job (fun later value => Known later call (.ok value)) (orFail error call) past := by
  refine ⟨untouched.proper call allowed, fun answer => ?_⟩
  have reading : Reading job past (⟨call, answer⟩ :: past) :=
    ⟨untouched.next call answer elsewhere, List.subset_cons_self _ _⟩
  cases answer with
  | ok value =>
      refine ⟨reading, ?_⟩
      intro other same
      cases same
      exact List.mem_cons_self
  | error error => exact ⟨reading, fun value same => by cases same⟩

theorem registered_bind (fact : Past → α → Prop) (program : Handler α) (rest : α → Handler β)
    (past : Past) (first : Learns server job fact program past)
    (next : ∀ later value, Reading job past later → fact later value →
      (rest value).Honest (AccountsProper server job) (Registered job) later) :
    (program.bind rest).Honest (AccountsProper server job) (Registered job) past := by
  refine honest_bind _ _ program rest past first ?_ ?_
  · intro later value known
    exact next later value known.1 (known.2 value rfl)
  · intro later error known
    exact known.1.untouched.refused error

def Uncounted (past : Past) : Prop := ∀ answer, ¬ Known past .countReviewers answer

theorem learns_lift (handler : Incidents.Handler α) (uses : handler.Uses reads)
    (asks : ∀ past call, reads call → accountsAllowed server job past (Call.incident call))
    (past : Past) (untouched : Untouched job past) :
    Learns server job (fun later _ => Uncounted past → Uncounted later) (lift handler) past := by
  have embedded : (lift handler).Uses fun call => ∃ read, call = Call.incident read ∧ reads read := by
    refine uses_embed _ _ _ handler ?_
    simpa using uses
  have honest := honest_uses (AccountsProper server job)
    (fun now => Reading job past now ∧ (Uncounted past → Uncounted now)) _ ?_ ?_ (lift handler)
    embedded past ⟨⟨untouched, List.Subset.refl past⟩, fun none => none⟩
  · refine honest_post _ _ ?_ _ _ honest
    intro later result known
    exact ⟨known.1.1, fun _ _ => known.1.2⟩
  · intro now call known chosen
    obtain ⟨read, rfl, only⟩ := chosen
    exact known.1.untouched.proper _ (asks now read only)
  · intro now call answer known chosen
    obtain ⟨read, rfl, only⟩ := chosen
    refine ⟨known.1.next (.incident read) answer only, fun none other counted => ?_⟩
    cases counted with
    | tail _ earlier => exact known.2 none other earlier

theorem actorFromHeaders_names (job : Job) (requestId : Uuid) (past : Past) :
    (lift (Incidents.Reviewer.actorFromHeaders server.verify job.headers requestId)).Honest
      (fun _ _ => True)
      (fun _ result => ∀ reviewerId, result = .ok (.reviewer reviewerId) →
        job.caller server = some reviewerId) past := by
  unfold Incidents.Reviewer.actorFromHeaders lift Job.caller
  cases present : header "authorization" job.headers with
  | none =>
      intro reviewerId same
      cases same
  | some value =>
      simp only [Option.bind_some]
      cases bearer : (headerText value).bind Incidents.Reviewer.bearerToken with
      | none =>
          intro reviewerId same
          cases same
      | some token =>
          simp only [Option.bind_some]
          cases accepted : server.verify token with
          | none =>
              intro reviewerId same
              cases same
          | some verified =>
              refine ⟨trivial, fun answer => ?_⟩
              cases answer with
              | error failure =>
                  intro reviewerId same
                  cases same
              | ok revoked =>
                  cases revoked with
                  | true =>
                      intro reviewerId same
                      cases same
                  | false =>
                      intro reviewerId same
                      cases same
                      rfl

section Register

variable (registers : job.request = .register request)

include registers

theorem reads_allowed (past : Past) (call : Incidents.Call) (read : reads call) :
    accountsAllowed server job past (Call.incident call) := by
  cases call with
  | findMembership reviewerId =>
      intro idToken login
      rw [registers] at login
      cases login
  | _ => exact read

theorem learns_actor (requestId : Uuid) (past : Past) (untouched : Untouched job past) :
    Learns server job (fun later actor => (Uncounted past → Uncounted later) ∧
        ∀ reviewerId, actor = .reviewer reviewerId → job.caller server = some reviewerId)
      (lift (Incidents.Reviewer.actorFromHeaders server.verify job.headers requestId)) past := by
  have learns : Learns server job _ _ past := learns_lift _
    (actorFromHeaders_uses server.verify job.headers requestId) (reads_allowed registers) past
    untouched
  have both := honest_and _ _ _ past learns (actorFromHeaders_names job requestId past)
  refine honest_post _ _ ?_ _ _ (honest_allow _ (fun _ _ proper => proper.1) _ _ both)
  intro later result known
  refine ⟨known.1.1, fun value same => ⟨known.1.2 value same, ?_⟩⟩
  intro reviewerId named
  exact known.2 reviewerId (by rw [same, named])

theorem learns_granter (actor : Actor) (requestId : Uuid) (past : Past)
    (untouched : Untouched job past) (named : ∀ reviewerId, actor = .reviewer reviewerId →
      job.caller server = some reviewerId) :
    Learns server job (fun later granter => ∀ membership, granter = some membership →
        ∃ reviewerId, job.caller server = some reviewerId ∧
          Known later (.incident (.findMembership reviewerId)) (.ok (some membership)))
      (Auth.granterMembership actor requestId) past := by
  cases actor with
  | automated => exact learns_done _ _ past untouched fun membership same => by cases same
  | reviewer reviewerId =>
      have asks : Learns server job _ _ past := learns_ask (Auth.persistenceFailed requestId)
        (.incident (.findMembership reviewerId)) past untouched
        (reads_allowed registers past _ trivial) trivial
      refine honest_post _ _ ?_ _ _ asks
      intro later result known
      refine ⟨known.1, fun value same membership found => ?_⟩
      exact ⟨reviewerId, named reviewerId rfl, found ▸ known.2 value same⟩

theorem learns_organization (organizationId : Option OrganizationId) (requestId : Uuid)
    (past : Past) (untouched : Untouched job past) :
    Learns server job (fun _ _ => True) (Auth.checkOrganization organizationId requestId) past := by
  cases organizationId with
  | none => exact learns_done _ _ past untouched trivial
  | some id =>
      refine ⟨untouched.proper _ (reads_allowed registers past _ trivial), fun answer => ?_⟩
      have reading : Reading job past (⟨.incident (.findOrganization id), answer⟩ :: past) :=
        ⟨untouched.next (.incident (.findOrganization id)) answer trivial, List.subset_cons_self _ _⟩
      cases answer with
      | error failure => exact ⟨reading, fun _ _ => trivial⟩
      | ok found =>
          cases found with
          | none => exact ⟨reading, fun _ _ => trivial⟩
          | some organization =>
              simp only [Proc.bind]
              split
              · exact ⟨reading, fun _ _ => trivial⟩
              · exact ⟨reading, fun _ _ => trivial⟩

end Register

theorem Untouched.uncreated {past : Past} (untouched : Untouched job past) (email : String)
    (answer : Except Failure CreateReviewerOutcome) (differs : answer ≠ .ok .created)
    (error : HandlerError) :
    Registered job (⟨.createReviewer (job.fresh 0) email, answer⟩ :: past)
      (.error error : Except HandlerError α) := by
  have absent : ∀ other, ¬ Known (⟨.createReviewer (job.fresh 0) email, answer⟩ :: past)
      (.createReviewer (job.fresh 0) other) (.ok .created) := by
    intro other known
    cases known with
    | head => exact differs rfl
    | tail _ earlier => exact untouched.created other _ earlier
  constructor
  · intro registering
    obtain ⟨other, known⟩ := registering.1
    exact absent other known
  · intro response same
    cases same
  · intro other email same known
    exact absurd known (absent email)

theorem saveReviewer_registered (registers : job.request = .register request) (actor : Actor)
    (count : Nat) (role : Role) (organizationId : Option OrganizationId) (requestId : Uuid)
    (past : Past) (untouched : Untouched job past)
    (granted : Granted server job request past count role organizationId) :
    (Auth.saveReviewer job.fresh actor (trim request.email) role organizationId requestId).Honest
      (AccountsProper server job) (Registered job) past := by
  refine ⟨untouched.proper (.createReviewer (job.fresh 0) (trim request.email))
    ⟨request, count, role, organizationId, registers, rfl, rfl, granted⟩, fun answer => ?_⟩
  cases answer with
  | error failure => exact untouched.uncreated _ (.error failure) (by simp) _
  | ok outcome =>
      cases outcome with
      | emailAlreadyRegistered =>
          exact untouched.uncreated _ (.ok .emailAlreadyRegistered) (by simp) _
      | created =>
          have made : Known (⟨.createReviewer (job.fresh 0) (trim request.email), .ok .created⟩ :: past)
              (.createReviewer (job.fresh 0) (trim request.email)) (.ok .created) :=
            List.mem_cons_self
          have kept := granted.mono (List.subset_cons_self
            (⟨.createReviewer (job.fresh 0) (trim request.email), .ok .created⟩ :
              Exchange accessInterface) past)
          refine ⟨⟨⟨request, count, registers, rfl, made, kept⟩,
            fun _ => ⟨role, organizationId, rfl⟩⟩, fun answer => ?_⟩
          -- The membership was tried, so nothing of the registration is open any more.
          have tried : ∀ (later : Past), Known later (.addMembership (job.fresh 0) role organizationId)
              answer → ¬ Registering job later := by
            intro later known registering
            exact registering.2 role organizationId answer known
          cases answer with
          | error failure =>
              refine ⟨tried _ List.mem_cons_self, fun _ same => (by cases same), fun _ _ _ _ => ?_⟩
              exact ⟨failure, Or.inl ⟨role, organizationId, List.mem_cons_self⟩⟩
          | ok _ =>
              refine ⟨⟨fun _ _ => ⟨trim request.email, List.mem_cons_of_mem _ made⟩,
                fun registering => absurd registering (tried _ List.mem_cons_self)⟩, fun answer => ?_⟩
              cases answer with
              | error failure =>
                  refine ⟨tried _ (List.mem_cons_of_mem _ List.mem_cons_self),
                    fun _ same => (by cases same), fun _ _ _ _ => ?_⟩
                  exact ⟨failure, Or.inr ⟨_, _, _, _, _, List.mem_cons_self⟩⟩
              | ok _ =>
                  refine ⟨tried _ (List.mem_cons_of_mem _ List.mem_cons_self), fun _ _ => ?_,
                    fun _ _ same => by cases same⟩
                  exact ⟨role, organizationId, List.mem_cons_of_mem _ List.mem_cons_self⟩

theorem register_registered (registers : job.request = .register request) :
    (Auth.register server.verify job.fresh job.headers request job.requestId).Honest
      (AccountsProper server job) (Registered job) [] := by
  refine registered_bind _ _ _ [] (learns_actor registers job.requestId [] .nil) ?_
  intro past actor reading learnt
  have uncounted : Uncounted past := learnt.1 fun _ known => by cases known
  refine ⟨reading.untouched.proper .countReviewers uncounted, fun answer => ?_⟩
  have untouched := reading.untouched.next .countReviewers answer trivial
  cases answer with
  | error failure => exact untouched.refused _
  | ok count =>
      have counted : Known (⟨.countReviewers, .ok count⟩ :: past) .countReviewers (.ok count) :=
        List.mem_cons_self
      simp only [Proc.bind]
      cases requested : Auth.requestedMembership count request job.requestId with
      | error error => exact untouched.refused _
      | ok wanted =>
          obtain ⟨role, organizationId⟩ := wanted
          refine registered_bind _ _ _ _ (learns_granter registers actor job.requestId _ untouched
            learnt.2) ?_
          intro past granter further found
          cases allowed : authorizeMembershipGrant granter count role organizationId with
          | error error => exact further.untouched.refused _
          | ok _ =>
              have granted : Granted server job request past count role organizationId :=
                ⟨further.grown counted, requested, granter, found, allowed⟩
              refine registered_bind _ _ _ _ (learns_organization registers organizationId
                job.requestId _ further.untouched) ?_
              intro past _ last _
              show Honest _ _ (if Auth.validEmail (trim request.email) then _ else _) _
              split
              · exact saveReviewer_registered registers actor count role organizationId _ past
                  last.untouched (granted.mono last.grown)
              · exact last.untouched.refused _

/-- What is known when a login has ended. -/
structure LoggedIn (job : Job) (past : Past) (result : Except HandlerError α) : Prop where
  untouched : Untouched job past
  panicked : result = .error (.panicked Auth.everyReviewerHasMembership) → Stray past

theorem Untouched.loggedIn {past : Past} (untouched : Untouched job past)
    (result : Except HandlerError α)
    (quiet : result ≠ .error (.panicked Auth.everyReviewerHasMembership)) :
    LoggedIn job past result where
  untouched := untouched
  panicked := fun same => absurd same quiet

theorem Untouched.broken {past : Past} (untouched : Untouched job past) (error : ApiError)
    (call : Call) (failure : Failure) (elsewhere : Elsewhere call) (ours : Auth.LoginCall call) :
    LoggedIn job (⟨call, .error failure⟩ :: past) (.error (match failure with
      | .database => HandlerError.api error
      | .panic message => .panicked message) : Except HandlerError α) := by
  refine ⟨untouched.next call _ elsewhere, fun same => Or.inr ⟨call, ours, ?_⟩⟩
  cases failure with
  | database => cases same
  | panic message =>
      simp only [Except.error.injEq, HandlerError.panicked.injEq] at same
      rw [same]
      exact List.mem_cons_self

theorem loggedIn_ask (error : ApiError) (call : Call) (rest : call.Res → Handler α) (past : Past)
    (untouched : Untouched job past) (allowed : accountsAllowed server job past call)
    (elsewhere : Elsewhere call) (ours : Auth.LoginCall call)
    (next : ∀ value, Untouched job (⟨call, .ok value⟩ :: past) →
      (rest value).Honest (AccountsProper server job) (LoggedIn job) (⟨call, .ok value⟩ :: past)) :
    ((orFail error call).bind rest).Honest (AccountsProper server job) (LoggedIn job) past := by
  refine honest_perform _ call _ rest past (untouched.proper call allowed) ?_ ?_
  · intro value
    exact next value (untouched.next call _ elsewhere)
  · intro failure
    exact untouched.broken error call failure elsewhere ours

theorem enforceRateLimit_loggedIn (scope : Incidents.RateLimitScope) (rest : Unit → Handler α)
    (next : ∀ past, Untouched job past →
      (rest ()).Honest (AccountsProper server job) (LoggedIn job) past) :
    ((lift (Incidents.Reports.enforceRateLimit scope job.headers job.requestId)).bind rest).Honest
      (AccountsProper server job) (LoggedIn job) [] := by
  let call : Call :=
    .incident (.recordAndCheck scope (Incidents.Reports.sourceKeyFromHeaders job.headers))
  refine ⟨Untouched.nil.proper call trivial, fun answer => ?_⟩
  have untouched : Untouched job [⟨call, answer⟩] := Untouched.nil.next call answer trivial
  cases answer with
  | error failure =>
      exact Untouched.nil.broken (Incidents.Reports.rateLimitCheckFailed job.requestId) call failure
        trivial trivial
  | ok within =>
      cases within with
      | true => exact next _ untouched
      | false => exact untouched.loggedIn _ (by simp)

theorem googleLogin_loggedIn (idToken : String) (login : job.request = .googleLogin idToken) :
    (Auth.googleLogin server.unicode server.verifyIdToken job.fresh job.headers idToken
      job.requestId).Honest (AccountsProper server job) (LoggedIn job) [] := by
  have audits : ∀ (past : Past) auditEventId actor action resourceId requestId,
      accountsAllowed server job past
        (.recordReviewerAudit auditEventId actor action resourceId requestId) := by
    intro past auditEventId actor action resourceId requestId request registers
    rw [login] at registers
    cases registers
  refine enforceRateLimit_loggedIn _ _ fun past untouched => ?_
  cases identified : server.verifyIdToken idToken with
  | none => exact untouched.loggedIn _ (by simp)
  | some identity =>
      refine loggedIn_ask _ _ _ past untouched trivial trivial trivial fun found later => ?_
      cases found with
      | none =>
          refine loggedIn_ask _ _ _ _ later (audits _ _ _ _ _ _) trivial trivial fun _ last => ?_
          exact last.loggedIn _ (by simp)
      | some reviewerId =>
          have looked := List.mem_cons_self
            (a := (⟨.findReviewerByEmail (server.unicode.toLowercase (trim identity)),
              .ok (some reviewerId)⟩ : Exchange accessInterface)) (l := past)
          refine loggedIn_ask _ _ _ _ later (audits _ _ _ _ _ _) trivial trivial fun _ last => ?_
          refine loggedIn_ask _ (.incident (.findMembership reviewerId)) _ _ last ?_ trivial trivial ?_
          · intro _ _
            exact ⟨_, List.mem_cons_of_mem _ looked⟩
          · intro membership after
            cases membership with
            | none =>
                exact ⟨after, fun _ => Or.inl ⟨reviewerId, List.mem_cons_self⟩⟩
            | some membership => exact after.loggedIn _ (by simp)

def Request.onAccounts : Request → Bool
  | .register _ | .googleLogin _ => true
  | _ => false

theorem Lookup.unrelated {call : Call} (lookup : Lookup call) : Unrelated call := by
  cases call <;> first | exact lookup | trivial

theorem run_uses (other : job.request.onAccounts = false) : (server.run job).Uses Unrelated := by
  refine uses_mono ?_ _ (run_calls server job)
  intro call made
  rcases made with lookup | writes
  · exact lookup.unrelated
  · unfold Request.writes at writes
    split at writes <;> first | trivial | simp_all [Request.onAccounts]

theorem unrelated_allowed (other : job.request.onAccounts = false) (past : Past) (call : Call)
    (unrelated : Unrelated call) : accountsAllowed server job past call := by
  cases call with
  | incident call =>
      cases call with
      | findMembership reviewerId =>
          intro idToken login
          simp [login, Request.onAccounts] at other
      | _ => exact unrelated
  | countReviewers => cases unrelated
  | createReviewer id email => cases unrelated
  | recordReviewerAudit auditEventId actor action resourceId requestId => cases unrelated
  | addMembership reviewerId role organizationId => cases unrelated
  | _ => trivial

theorem run_accounts (server : Server) (job : Job) :
    (server.run job).Honest (AccountsProper server job) (AccountsEnded job) [] := by
  cases other : job.request.onAccounts with
  | false =>
      have honest := honest_uses (AccountsProper server job) (Untouched job) Unrelated ?_ ?_
        (server.run job) (run_uses other) [] .nil
      · refine honest_post _ _ ?_ _ _ honest
        intro later result known
        refine ⟨known.1.notRegistering, ?_, ?_⟩
        · intro request registers
          simp [registers, Request.onAccounts] at other
        · intro idToken login
          simp [login, Request.onAccounts] at other
      · intro past call untouched unrelated
        exact untouched.proper call (unrelated_allowed other past call unrelated)
      · intro past call answer untouched unrelated
        refine untouched.next call answer ?_
        cases call <;> first | exact unrelated | trivial
  | true =>
      unfold Server.run
      cases made : job.request with
      | register request =>
          refine honest_bind _ _ _ _ [] (register_registered made) ?_ ?_
          · intro past response known
            refine ⟨known.settled, fun request _ => ?_, fun idToken login => ?_⟩
            · exact ⟨known.settled, fun _ _ => known.added response rfl, fun _ _ same => by cases same⟩
            · rw [made] at login
              cases login
          · intro past error known
            refine ⟨known.settled, fun request _ => ?_, fun idToken login => ?_⟩
            · exact ⟨known.settled, fun _ same => (by cases same),
                fun _ email _ => known.failed error email rfl⟩
            · rw [made] at login
              cases login
      | googleLogin idToken =>
          refine honest_bind _ _ _ _ [] (googleLogin_loggedIn idToken made) ?_ ?_
          · intro past response known
            refine ⟨known.untouched.notRegistering, fun request registers => ?_,
              fun _ _ same => by cases same⟩
            rw [made] at registers
            cases registers
          · intro past error known
            refine ⟨known.untouched.notRegistering, fun request registers => ?_, fun _ _ same => ?_⟩
            · rw [made] at registers
              cases registers
            · cases same
              exact known.panicked rfl
      | _ => simp [made, Request.onAccounts] at other

end SafeCameroon.Access
