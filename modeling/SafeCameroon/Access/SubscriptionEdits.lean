import SafeCameroon.Access.Editions
import SafeCameroon.Access.NotificationIsolation

namespace SafeCameroon.Access

open Table Process Proc

variable {server : Server} {job : Job} {α : Type}

def Saved (past : Past) : Prop :=
  ∃ auditEventId subscription actor requestId,
    Known past (.updateSubscription auditEventId subscription actor requestId) (.ok true)

/-- The request has not asked for an update yet. -/
def Unasked (past : Past) : Prop :=
  ∀ auditEventId subscription actor requestId answer,
    ¬ Known past (.updateSubscription auditEventId subscription actor requestId) answer

def Request.edits : Request → Prop
  | .updateSubscription _ _ | .updateCitizenSubscription _ _ => True
  | _ => False

def Call.isUpdate : Call → Prop
  | .updateSubscription _ _ _ _ => True
  | _ => False

def Request.asks (requestId : Uuid) :
    Request → Option (SubscriptionId × Except ApiError (List SubscriptionRule))
  | .updateSubscription id rules =>
      some (id, rules.mapM (Subscriptions.toDomainRule requestId))
  | .updateCitizenSubscription id request =>
      some (id, .ok (CitizenSubscriptions.updatedRules request))
  | _ => none

def AsAsked (asked : SubscriptionId × Except ApiError (List SubscriptionRule)) (past : Past)
    (call : Call) : Prop :=
  ∀ auditEventId subscription actor requestId,
    call = .updateSubscription auditEventId subscription actor requestId →
    asked.2 = .ok subscription.rules ∧ ∃ before,
      Known past (.findSubscription asked.1) (.ok (some before)) ∧ subscription.id = before.id

/-- The next call of an update: it only looks something up, or it is the one update, computed from
what was read, or the update was saved before. -/
structure EditStep (asked : SubscriptionId × Except ApiError (List SubscriptionRule)) (past : Past)
    (call : Call) : Prop where
  versioned : Versioned past call
  once : Lookup call ∨ (call.isUpdate ∧ Unasked past) ∨ Saved past
  asAsked : AsAsked asked past call

structure EditsProper (job : Job) (past : Past) (call : Call) : Prop where
  made : job.request.calls call
  versioned : Versioned past call
  once : job.request.edits → Lookup call ∨ (call.isUpdate ∧ Unasked past) ∨ Saved past
  asAsked : ∀ asked, job.request.asks job.requestId = some asked → AsAsked asked past call

/-- A reviewer's update is answered with success exactly when it was saved. -/
def ReviewerAnswered (past : Past) (result : Except HandlerError α) : Prop :=
  (∃ value, result = .ok value) ↔ Saved past

/-- A citizen's update is answered with success only when it was saved, and with a conflict only when
it was not. -/
structure CitizenAnswered (requestId : Uuid) (past : Past) (result : Except HandlerError α) :
    Prop where
  success : ∀ value, result = .ok value → Saved past
  conflict : result = .error (.api (CitizenSubscriptions.subscriptionVersionConflict requestId)) →
    ¬ Saved past

def EditsEnded (job : Job) (past : Past) (result : Except HandlerError Response) : Prop :=
  match job.request with
  | .updateSubscription _ _ => ReviewerAnswered past result
  | .updateCitizenSubscription _ _ => CitizenAnswered job.requestId past result
  | _ => True

section Past

variable {past later : Past} {asked : SubscriptionId × Except ApiError (List SubscriptionRule)}

theorem AsAsked.other {call : Call} (other : ¬ call.isUpdate) : AsAsked asked past call := by
  intro auditEventId subscription actor requestId same
  subst same
  exact absurd trivial other

theorem Lookup.versioned {call : Call} (lookup : Lookup call) : Versioned past call := by
  cases call <;> trivial

theorem Lookup.editStep {call : Call} (lookup : Lookup call) : EditStep asked past call :=
  ⟨lookup.versioned, Or.inl lookup, .other fun update => by cases call <;> trivial⟩

theorem Saved.mono (saved : Saved past) (grown : past ⊆ later) : Saved later := by
  obtain ⟨auditEventId, subscription, actor, requestId, known⟩ := saved
  exact ⟨auditEventId, subscription, actor, requestId, known.mono grown⟩

theorem Unasked.nil : Unasked [] := fun _ _ _ _ _ known => by cases known

theorem Unasked.unsaved (unasked : Unasked past) : ¬ Saved past := by
  intro saved
  obtain ⟨auditEventId, subscription, actor, requestId, known⟩ := saved
  exact unasked auditEventId subscription actor requestId _ known

theorem Unasked.next (unasked : Unasked past) (call : Call) (answer : Except Failure call.Res)
    (lookup : Lookup call) : Unasked (⟨call, answer⟩ :: past) := by
  intro auditEventId subscription actor requestId other known
  cases known with
  | head => exact lookup
  | tail _ earlier => exact unasked auditEventId subscription actor requestId other earlier

theorem Unasked.refused (unasked : Unasked past) {auditEventId : Uuid} {subscription : Subscription}
    {actor : Actor} {requestId : Uuid} {answer : Except Failure Bool} (failed : answer ≠ .ok true) :
    ¬ Saved (⟨.updateSubscription auditEventId subscription actor requestId, answer⟩ :: past) := by
  intro saved
  obtain ⟨_, _, _, _, known⟩ := saved
  cases known with
  | head => exact failed rfl
  | tail _ earlier => exact unasked _ _ _ _ _ earlier

end Past

section Handlers

variable {past : Past} {asked : SubscriptionId × Except ApiError (List SubscriptionRule)}
  (post : Past → Except HandlerError α → Prop)
  (refused : ∀ later error, ¬ Saved later → post later (.error error))

theorem lookups_edit (program : Handler α) (uses : program.Uses Lookup) (unasked : Unasked past) :
    program.Honest (EditStep asked) (fun later _ => Unasked later ∧ past ⊆ later) past :=
  honest_uses (EditStep asked) Unasked Lookup (fun _ _ _ lookup => lookup.editStep)
    (fun _ call answer unasked lookup => unasked.next call answer lookup) program uses past unasked

include refused

theorem edit_after {β : Type} (program : Handler β) (uses : program.Uses Lookup)
    (rest : β → Handler α) (unasked : Unasked past)
    (next : ∀ later value, past ⊆ later → Unasked later →
      (rest value).Honest (EditStep asked) post later) :
    (program.bind rest).Honest (EditStep asked) post past := by
  refine honest_bind _ _ program rest past (lookups_edit program uses unasked) ?_ ?_
  · intro later value known
    exact next later value known.2 known.1
  · intro later error known
    exact refused later error known.1.unsaved

theorem edit_lookup (error : ApiError) (call : Call) (lookup : Lookup call)
    (rest : call.Res → Handler α) (unasked : Unasked past)
    (next : ∀ value, Unasked (⟨call, .ok value⟩ :: past) →
      (rest value).Honest (EditStep asked) post (⟨call, .ok value⟩ :: past)) :
    ((orFail error call).bind rest).Honest (EditStep asked) post past := by
  refine honest_perform post call _ rest past lookup.editStep ?_ ?_
  · intro value
    exact next value (unasked.next call _ lookup)
  · intro failure
    exact refused _ _ (unasked.next call _ lookup).unsaved

theorem edit_update (error : ApiError) {auditEventId : Uuid} {before subscription : Subscription}
    {actor : Actor} {requestId : Uuid} {rules : List SubscriptionRule} (rest : Bool → Handler α)
    (unasked : Unasked past)
    (read : Known past (.findSubscription asked.1) (.ok (some before))) (wanted : asked.2 = .ok rules)
    (updated : before.updateRules rules = .ok subscription)
    (conflicts : (rest false).Honest (EditStep asked) post
      (⟨.updateSubscription auditEventId subscription actor requestId, .ok false⟩ :: past))
    (succeeds : (rest true).Honest (EditStep asked) post
      (⟨.updateSubscription auditEventId subscription actor requestId, .ok true⟩ :: past)) :
    ((orFail error (.updateSubscription auditEventId subscription actor requestId)).bind rest).Honest
      (EditStep asked) post past := by
  obtain ⟨same, _, chosen, _⟩ := Subscription.updateRules_ok updated
  refine honest_perform post (Call.updateSubscription auditEventId subscription actor requestId) _
    rest past ⟨⟨before, ⟨asked.1, read⟩, ?_⟩, ?_, ?_⟩ ?_ ?_
  · rw [chosen]
    exact updated
  · exact Or.inr (Or.inl ⟨trivial, unasked⟩)
  · intro _ _ _ _ made
    cases made
    exact ⟨chosen ▸ wanted, before, read, same⟩
  · intro saved
    cases saved with
    | false => exact conflicts
    | true => exact succeeds
  · intro failure
    exact refused _ _ (unasked.refused (by simp))

theorem edit_managing (headers : List (String × Bytes)) (requestId : Uuid)
    (next : Actor → Handler α) (unasked : Unasked past)
    (edits : ∀ later actor, Unasked later → (next actor).Honest (EditStep asked) post later) :
    (Subscriptions.managing server.verify headers requestId next).Honest (EditStep asked) post
      past := by
  refine edit_after post refused _ (actor_uses (fun _ lookup => lookup) headers requestId) _ unasked ?_
  intro later actor _ still
  cases authorize actor .manageSubscriptions with
  | error _ => exact refused _ _ still.unsaved
  | ok _ => exact edits later actor still

end Handlers

theorem updateSubscription_edits (id : SubscriptionId)
    (rules : List Subscriptions.SubscriptionRuleInput) (requestId : Uuid) :
    (Subscriptions.updateSubscription server.verify job.fresh job.headers id rules
      requestId).Honest (EditStep (id, rules.mapM (Subscriptions.toDomainRule requestId)))
      ReviewerAnswered [] := by
  have refused : ∀ (later : Past) error, ¬ Saved later →
      ReviewerAnswered later (.error error : Except HandlerError Subscription) := by
    intro later error unsaved
    constructor
    · intro answered
      obtain ⟨_, same⟩ := answered
      cases same
    · intro saved
      exact absurd saved unsaved
  refine edit_managing _ refused _ _ _ .nil fun first actor unasked => ?_
  refine edit_lookup _ refused _ (.findSubscription id) trivial _ unasked fun found still => ?_
  cases found with
  | none => exact refused _ _ still.unsaved
  | some before =>
      refine edit_after _ refused _ 
        (authorizeConsumerAccess_uses (fun _ lookup => lookup) _ actor _) _ still ?_
      intro second _ grown last
      have read : Known second (.findSubscription id) (.ok (some before)) :=
        grown List.mem_cons_self
      cases wanted : rules.mapM (Subscriptions.toDomainRule requestId) with
      | error _ => exact refused _ _ last.unsaved
      | ok rules =>
          dsimp only
          cases updated : before.updateRules rules with
          | error _ => exact refused _ _ last.unsaved
          | ok subscription =>
              refine edit_update _ refused _ _ last read rfl updated ?_ ?_
              · exact refused _ _ (last.refused (by simp))
              · exact ⟨fun _ => ⟨_, _, _, _, List.mem_cons_self⟩, fun _ => ⟨_, rfl⟩⟩

theorem updatePreference_edits
    {asked : SubscriptionId × Except ApiError (List SubscriptionRule)} {past : Past}
    (saved : Saved past) (consumerId : ConsumerId)
    (push : Option PushSubscriptionInput) (requestId : Uuid) :
    (CitizenSubscriptions.updatePreference consumerId push requestId).Honest (EditStep asked)
      (fun later result => Saved later ∧
        result ≠ .error (.api (CitizenSubscriptions.subscriptionVersionConflict requestId))) past := by
  cases push with
  | none => exact ⟨saved, by simp⟩
  | some push =>
      dsimp only [CitizenSubscriptions.updatePreference]
      split
      · refine ⟨saved, ?_⟩
        simp [CitizenSubscriptions.invalidRequest, CitizenSubscriptions.subscriptionVersionConflict]
      · refine ⟨⟨trivial, Or.inr (Or.inr saved), .other id⟩, ?_⟩
        intro answer
        cases answer with
        | ok value =>
            refine ⟨saved.mono (List.subset_cons_self _ _), ?_⟩
            intro same
            cases same
        | error failure =>
            refine ⟨saved.mono (List.subset_cons_self _ _), ?_⟩
            intro same
            cases failure with
            | database =>
                simp [CitizenSubscriptions.persistenceFailed,
                  CitizenSubscriptions.subscriptionVersionConflict] at same
            | panic message => cases same

theorem updateCitizen_edits (id : SubscriptionId) (request : CitizenSubscriptions.UpdateRequest)
    (requestId : Uuid) :
    (CitizenSubscriptions.update server.sha256 job.fresh job.headers id request requestId).Honest
      (EditStep (id, .ok (CitizenSubscriptions.updatedRules request))) (CitizenAnswered requestId)
      [] := by
  have refused : ∀ (later : Past) error, ¬ Saved later → CitizenAnswered requestId later
      (.error error : Except HandlerError CitizenSubscriptions.RulesResponse) := by
    intro later error unsaved
    constructor
    · intro response same
      cases same
    · exact fun _ => unsaved
  have found : Finds server job (fun later subscription =>
      Known later (.findSubscription id) (.ok (some subscription)) ∧
        TokenRead later subscription.consumerId)
      (CitizenSubscriptions.authorizeCitizenSubscription server.sha256 id job.headers requestId)
      [] := authorizeCitizenSubscription_finds id job.headers requestId
  have looks : (CitizenSubscriptions.authorizeCitizenSubscription server.sha256 id job.headers
      requestId).Honest (EditStep (id, .ok (CitizenSubscriptions.updatedRules request)))
      (fun later _ => Unasked later ∧ [] ⊆ later) [] :=
    lookups_edit _ (authorizeCitizenSubscription_uses (fun _ lookup => lookup) job.headers requestId
      id) .nil
  have both := honest_and _ _ _ [] looks found
  refine honest_bind _ _ _ _ [] (honest_allow _ (fun _ _ both => both.1) _ [] both) ?_ ?_
  · intro first before known
    have read := (known.2.2 before rfl).1
    have unasked := known.1.1
    split
    · exact refused _ _ unasked.unsaved
    · split
      · exact refused _ _ unasked.unsaved
      · cases updated : before.updateRules (CitizenSubscriptions.updatedRules request) with
        | error _ => exact refused _ _ unasked.unsaved
        | ok subscription =>
            refine edit_update (CitizenAnswered requestId) refused _ _ unasked read rfl updated ?_ ?_
            · exact refused _ _ (unasked.refused (by simp))
            · refine honest_bind _ _ _ _ _ (updatePreference_edits
                ⟨_, _, _, _, List.mem_cons_self⟩ _ request.pushSubscription requestId) ?_ ?_
              · intro later _ known
                refine ⟨fun _ _ => known.1, ?_⟩
                intro same
                cases same
              · intro later error known
                constructor
                · intro response same
                  cases same
                · intro same
                  cases same
                  exact absurd rfl known.2
  · intro later error known
    exact refused _ _ known.1.1.unsaved

theorem calls_versioned {request : Request} (other : ¬ request.edits) {past : Past} {call : Call}
    (made : request.calls call) : Versioned past call := by
  rcases made with lookup | writes
  · exact lookup.versioned
  · unfold Request.writes at writes
    split at writes <;> first | trivial | exact writes | exact writes.2 | exact absurd trivial other

theorem run_edits (server : Server) (job : Job) :
    (server.run job).Honest (EditsProper job) (EditsEnded job) [] := by
  have calls := honest_uses (fun _ call => job.request.calls call) (fun _ => True)
    job.request.calls (fun _ _ _ made => made) (fun _ _ _ _ _ => trivial) (server.run job)
    (run_calls server job) [] trivial
  have edits : ∀ asked, job.request.asks job.requestId = some asked →
      (server.run job).Honest (EditStep asked) (EditsEnded job) [] →
      (server.run job).Honest (EditsProper job) (EditsEnded job) [] := by
    intro asked asks honest
    have both := honest_and _ _ _ [] calls honest
    refine honest_post _ _ (fun _ _ known => known.2) _ [] (honest_allow _ ?_ _ [] both)
    intro past call known
    refine ⟨known.1, known.2.versioned, fun _ => known.2.once, fun other same => ?_⟩
    obtain rfl := Option.some.inj (asks.symm.trans same)
    exact known.2.asAsked
  cases made : job.request with
  | updateSubscription id rules =>
      apply edits _ (by rw [made]; rfl)
      unfold Server.run EditsEnded
      simp only [made]
      refine honest_bind _ _ _ _ [] (updateSubscription_edits id rules job.requestId) ?_ ?_
      · intro past subscription known
        exact ⟨fun _ => known.mp ⟨_, rfl⟩, fun _ => ⟨_, rfl⟩⟩
      · intro past error known
        constructor
        · intro answered
          obtain ⟨_, same⟩ := answered
          cases same
        · intro saved
          obtain ⟨_, same⟩ := known.mpr saved
          cases same
  | updateCitizenSubscription id request =>
      apply edits _ (by rw [made]; rfl)
      unfold Server.run EditsEnded
      simp only [made]
      refine honest_bind _ _ _ _ [] (updateCitizen_edits id request job.requestId) ?_ ?_
      · intro past response known
        refine ⟨fun _ _ => known.success _ rfl, ?_⟩
        intro same
        cases same
      · intro past error known
        constructor
        · intro response same
          cases same
        · intro same
          cases same
          exact known.conflict rfl
  | _ =>
      have other : ¬ job.request.edits := by simp [made, Request.edits]
      refine honest_post _ _ ?_ _ [] (honest_allow _ ?_ _ [] calls)
      · intro past result _
        simp only [EditsEnded, made]
      · intro past call known
        refine ⟨known, calls_versioned other known, fun edits => absurd edits other, ?_⟩
        intro asked asks
        rw [made] at asks
        cases asks

inductive ReadFrom (db : Db) (subscription : Subscription) : Prop where
  | byId (id : SubscriptionId)
      (read : PostgresSubscriptionRepository.findById id db = some subscription)
  | byConsumer (tie : Uuid → Nat) (consumerId : ConsumerId)
      (read : subscription ∈ PostgresSubscriptionRepository.findByConsumer tie consumerId db)
  | all (tie : Uuid → Nat) (read : subscription ∈ PostgresSubscriptionRepository.listAll tie db)
  | page (tie : Uuid → Nat) (limit offset : Nat)
      (read : subscription ∈ PostgresSubscriptionRepository.listAllPage tie limit offset db)

/-- The decision records the version of the rules that it gives as its reasons, and no other rules
ever had that version. -/
def Explains (unicode : Text.UnicodeData) (alert : Alert) (saved : List Edition)
    (decision : MatchDecision) : Prop :=
  ∃ edition ∈ saved, decision.subscriptionVersion = edition.version ∧
    decision.reasons = edition.rules.map (fun rule => evaluateRule unicode rule alert) ∧
    ∀ other ∈ saved, other.version = decision.subscriptionVersion → other = edition

/-- What a run makes of the editions of a subscription, up to one point and from there to another. -/
structure EditionsKept (init : Registry) (id : SubscriptionId) (world later : World) : Prop where
  version : ∀ saved, storedEdition id world.registry = some saved →
    saved.version = firstVersion init id + (successes id world.history).length
  rules : ∀ saved, storedEdition id world.registry = some saved →
    (editions init id world.history).head? = some saved
  versions : ((editions init id world.history).map (·.version)).reverse =
    List.range' (firstVersion init id) (editions init id world.history).length
  kept : editions init id world.history <:+ editions init id later.history
  cancelled : Cancelled id world.history → storedEdition id later.registry = none ∧
    editions init id later.history = editions init id world.history

/-- How a request for an update stands to what it changed. -/
structure UpdateAnswered {lower : PostgresReviewerRepository.Lower} (server : Server)
    (jobs : Nat → Job) (config : Pool lower) (pid : Nat) : Prop where
  changes : ∀ label next, label.pid = pid → step (server.pool jobs) config label = some next →
    next.state.registry ≠ config.state.registry → Saved (next.state.trace pid)
  done : ∀ response, config.slots pid = .active (.done response) →
    EditsEnded (jobs pid) (config.state.trace pid) (.ok response)
  failed : ∀ error, config.slots pid = .active (.fail error) →
    EditsEnded (jobs pid) (config.state.trace pid) (.error error)
  empty : ∀ id, (jobs pid).request = .updateSubscription id [] → ¬ Saved (config.state.trace pid)
  asked : ∀ id rules, (jobs pid).request.asks (jobs pid).requestId = some (id, rules) →
    ∀ auditEventId subscription actor requestId answer, Known (config.state.trace pid)
        (.updateSubscription auditEventId subscription actor requestId) answer →
      subscription.id = id ∧ rules = .ok subscription.rules

variable {lower : PostgresReviewerRepository.Lower}

section Calls

variable {env : Env} {registry : Registry}

theorem ReadFrom.stored {subscription : Subscription}
    (read : ReadFrom registry.tables subscription) :
    ∃ row ∈ registry.tables.subscriptions, row.subscription = subscription := by
  cases read with
  | byId id read =>
      obtain ⟨row, looked, same⟩ := Option.map_eq_some_iff.mp read
      exact ⟨row, (lookup_some _ _ _ _ looked).1, same⟩
  | byConsumer tie consumerId read =>
      obtain ⟨row, member, same⟩ := List.mem_map.mp read
      exact ⟨row, (List.mem_filter.mp ((mem_orderBy _ _ _ _).mp member)).1, same⟩
  | all tie read =>
      obtain ⟨row, member, same⟩ := List.mem_map.mp read
      exact ⟨row, (mem_orderBy _ _ _ _).mp member, same⟩
  | page tie limit offset read =>
      obtain ⟨row, member, same⟩ := List.mem_map.mp read
      have listed := List.mem_of_mem_drop (List.mem_of_mem_take member)
      exact ⟨row, (mem_orderBy _ _ _ _).mp (List.mem_reverse.mp listed), same⟩

theorem lookup_unchanged {call : Call} (lookup : Lookup call) :
    (runCall lower env call registry).2 = registry := by
  cases call with
  | incident shared => simp only [runCall, reads_unchanged env shared registry.tables lookup]
  | _ => first | rfl | cases lookup

theorem update_unchanged {auditEventId : Uuid} {subscription : Subscription} {actor : Actor}
    {requestId : Uuid} (failed : (runCall lower env
      (.updateSubscription auditEventId subscription actor requestId) registry).1 ≠ .ok true) :
    (runCall lower env (.updateSubscription auditEventId subscription actor requestId) registry).2 =
      registry := by
  have effect := runCall_effect lower env registry
    (.updateSubscription auditEventId subscription actor requestId) trivial
  generalize (runCall lower env (.updateSubscription auditEventId subscription actor requestId)
    registry).2 = after at effect ⊢
  generalize (runCall lower env (.updateSubscription auditEventId subscription actor requestId)
    registry).1 = answer at effect failed
  cases effect with
  | idle idle => rfl
  | audited auditEvents quiet =>
      rcases quiet with ⟨_, _, _, _, _, same⟩ | ⟨_, _, _, _, same⟩ <;> cases same
  | subscriptionUpdated auditEvents single => exact absurd rfl failed

end Calls

section Runs

variable {server : Server} {jobs : Nat → Job} {init : Registry} {config later : Pool lower}

abbrev EditRules (server : Server) (jobs : Nat → Job) (lower : PostgresReviewerRepository.Lower) :
    Rules (accessMachine lower) :=
  (OwnersProper server jobs lower).after (recorded lower) fun pid => EditsProper (jobs pid)

theorem edits_told (reached : server.Reaches lower jobs (freshSubscriptionRules lower) init config)
    (pid : Nat) : Told (recorded lower) (fun pid => EditsProper (jobs pid))
      (fun pid => EditsEnded (jobs pid)) config pid := by
  refine told_reach (recorded lower) _ _ _ _ (fun pid => run_edits server (jobs pid))
    (initially (World.initial init)) ?_ config reached pid
  intro other
  exact rfl

theorem edits_justified
    (reached : server.Reaches lower jobs (freshSubscriptionRules lower) init config) (pid : Nat) :
    Justified (EditsProper (jobs pid)) (config.state.trace pid) := by
  refine justified_reach (recorded lower) _ _ _ _ (fun pid => run_edits server (jobs pid))
    (initially (World.initial init)) ?_ (fun _ => rfl) config reached pid
  intro other
  exact rfl

/-- From any point of a run on, every request keeps to the rule on editions too. -/
theorem edits_minded
    (reached : server.Reaches lower jobs (freshSubscriptionRules lower) init config)
    (goesOn : Reach (freshSubscriptionRules lower) (server.pool jobs) config later) :
    Reach (EditRules server jobs lower) (server.pool jobs) config later :=
  reach_after (recorded lower) _ _ _ _ (fun pid => run_edits server (jobs pid)) config
    (edits_told reached) later (owners_minded reached goesOn)

theorem edited_reach (sound : Sound init)
    (reached : server.Reaches lower jobs (freshSubscriptionRules lower) init config) :
    Edited init config.state :=
  reach_holds _ _ _ (Edited init) (Edited.initial sound)
    (fun _ _ _ _ legal edited =>
      edited.execute legal.1.1.2.plain legal.1.1.1 legal.1.2 legal.2.versioned) config
    (edits_minded .start reached)

theorem editions_grow (init : Registry) (id : SubscriptionId)
    (goesOn : Reach (freshSubscriptionRules lower) (server.pool jobs) config later) :
    editions init id config.state.history <:+ editions init id later.state.history := by
  refine reach_holds _ _ _ (fun world : World => editions init id config.state.history <:+
    editions init id world.history) (List.suffix_refl _) ?_ later goesOn
  intro pid call env world _ grown
  rw [World.execute_history, editions_cons]
  exact grown.trans (List.suffix_append _ _)

theorem cancelled_stays (sound : Sound init)
    (reached : server.Reaches lower jobs (freshSubscriptionRules lower) init config)
    (goesOn : Reach (freshSubscriptionRules lower) (server.pool jobs) config later)
    {id : SubscriptionId} (cancelled : Cancelled id config.state.history) :
    storedEdition id later.state.registry = none ∧
      editions init id later.state.history = editions init id config.state.history := by
  have edited := edited_reach sound reached
  obtain ⟨gone, nonempty⟩ := edited.cancelled id cancelled
  have stays : Edited init later.state ∧ storedEdition id later.state.registry = none ∧
      editions init id later.state.history = editions init id config.state.history := by
    refine reach_holds _ _ config (fun world : World => Edited init world ∧
      storedEdition id world.registry = none ∧
      editions init id world.history = editions init id config.state.history)
      ⟨edited, gone, rfl⟩ ?_ later (edits_minded reached goesOn)
    intro pid call env world legal held
    obtain ⟨kept, absent, same⟩ := held
    have closed := kept.closed lower env legal.1.1.2.plain legal.1.1.1 absent
      (same ▸ nonempty)
    refine ⟨kept.execute legal.1.1.2.plain legal.1.1.1 legal.1.2 legal.2.versioned, closed.2, ?_⟩
    rw [World.execute_history, editions_cons, closed.1]
    exact same
  exact stays.2

theorem editions_kept (sound : Sound init)
    (reached : server.Reaches lower jobs (freshSubscriptionRules lower) init config)
    (goesOn : Reach (freshSubscriptionRules lower) (server.pool jobs) config later)
    (id : SubscriptionId) : EditionsKept init id config.state later.state := by
  have edited := edited_reach sound reached
  constructor
  · intro saved stored
    have latest := edited.latest stored
    have counted := edited.counted id (List.ne_nil_of_mem
      (List.mem_of_mem_head? (edited.stored id saved stored)))
    omega
  · exact edited.stored id
  · exact edited.versions id
  · exact editions_grow init id goesOn
  · exact cancelled_stays sound reached goesOn

theorem Edited.one {world : World} (edited : Edited init world) {id : SubscriptionId}
    {one other : Edition} (first : one ∈ editions init id world.history)
    (second : other ∈ editions init id world.history) (same : one.version = other.version) :
    one = other := by
  have distinct : ((editions init id world.history).map (·.version)).Nodup := by
    rw [← List.nodup_reverse, edited.versions id]
    exact List.nodup_range'
  exact eq_of_key (·.version) _ distinct one other first second same

theorem read_explained (sound : Sound init)
    (reached : server.Reaches lower jobs (freshSubscriptionRules lower) init config)
    (goesOn : Reach (freshSubscriptionRules lower) (server.pool jobs) config later)
    {subscription : Subscription} (read : ReadFrom config.state.registry.tables subscription)
    (unicode : Text.UnicodeData) (alert : Alert) :
    Explains unicode alert (editions init subscription.id later.state.history)
      (evaluateSubscription unicode subscription alert) := by
  have edited := edited_reach sound reached
  obtain ⟨row, stored, rfl⟩ := read.stored
  have saved := (stored_iff edited.sound).mpr ⟨row, stored, rfl, rfl⟩
  have member := (editions_grow init row.subscription.id goesOn).subset
    (List.mem_of_mem_head? (edited.stored _ _ saved))
  refine ⟨edition row.subscription, member, rfl, rfl, ?_⟩
  intro other also same
  exact (edited_reach sound (Reach.trans _ _ _ _ _ reached goesOn)).one also member same

theorem update_changes
    (reached : server.Reaches lower jobs (freshSubscriptionRules lower) init later) {pid : Nat}
    (edits : (jobs pid).request.edits) {label : Label Env} {next : Pool lower}
    (mine : label.pid = pid) (stepped : step (server.pool jobs) later label = some next)
    (changed : next.state.registry ≠ later.state.registry) : Saved (next.state.trace pid) := by
  have told := edits_told reached pid
  rcases step_cases (M := accessMachine lower) _ later next label stepped with
    ⟨_, rfl, _, rfl⟩ | ⟨caller, env, call, rest, rfl, slot, rfl⟩ | ⟨_, _, _, rfl, _, rfl⟩
  · exact absurd rfl changed
  · obtain rfl : caller = pid := mine
    rw [Told, slot] at told
    have latest := known_latest lower caller call env later.state
    rcases told.1.once edits with lookup | ⟨update, _⟩ | saved
    · exact absurd (lookup_unchanged lookup) changed
    · cases call with
      | updateSubscription auditEventId subscription actor requestId =>
          refine ⟨auditEventId, subscription, actor, requestId, ?_⟩
          have succeeded : (runCall lower env (.updateSubscription auditEventId subscription actor
              requestId) later.state.registry).1 = .ok true := by
            by_contra failed
            exact changed (update_unchanged failed)
          rw [succeeded] at latest
          exact latest
      | _ => cases update
    · exact saved.mono (trace_grows lower caller caller call env later.state)
  · exact absurd rfl changed

theorem empty_unsaved
    (reached : server.Reaches lower jobs (freshSubscriptionRules lower) init later) {pid : Nat}
    {id : SubscriptionId} (empty : (jobs pid).request = .updateSubscription id []) :
    ¬ Saved (later.state.trace pid) := by
  intro saved
  obtain ⟨auditEventId, subscription, actor, requestId, known⟩ := saved
  obtain ⟨past, _, proper⟩ := (edits_justified reached pid).earlier known
  have made := proper.made
  rw [empty] at made
  rcases made with lookup | nonempty
  · exact lookup
  · exact nonempty rfl

theorem update_as_asked (sound : Sound init)
    (reached : server.Reaches lower jobs (freshSubscriptionRules lower) init later) {pid : Nat}
    {id : SubscriptionId} {rules : Except ApiError (List SubscriptionRule)}
    (asks : (jobs pid).request.asks (jobs pid).requestId = some (id, rules))
    {auditEventId : Uuid} {subscription : Subscription} {actor : Actor} {requestId : Uuid}
    {answer : Except Failure Bool} (known : Known (later.state.trace pid)
      (.updateSubscription auditEventId subscription actor requestId) answer) :
    subscription.id = id ∧ rules = .ok subscription.rules := by
  obtain ⟨past, earlier, proper⟩ := (edits_justified reached pid).earlier known
  obtain ⟨wanted, before, found, same⟩ := proper.asAsked _ asks _ _ _ _ rfl
  exact ⟨same.trans ((edited_reach sound reached).named pid id before (found.mono earlier)), wanted⟩

theorem update_answered (sound : Sound init)
    (reached : server.Reaches lower jobs (freshSubscriptionRules lower) init later) {pid : Nat}
    (edits : (jobs pid).request.edits) : UpdateAnswered server jobs later pid := by
  have told := edits_told reached pid
  constructor
  · intro label next mine stepped changed
    exact update_changes reached edits mine stepped changed
  · intro response slot
    rw [Told, slot] at told
    exact told
  · intro error slot
    rw [Told, slot] at told
    exact told
  · intro id empty
    exact empty_unsaved reached empty
  · intro id rules asks auditEventId subscription actor requestId answer known
    exact update_as_asked sound reached asks known

/-- Edits of subscriptions lose no update: each is computed from the edition just before it, none
is saved twice or after the cancellation, and whatever was decided by an edition stays explained. -/
theorem subscription_edits_lose_nothing (server : Server) (jobs : Nat → Job)
    (lower : PostgresReviewerRepository.Lower) (init : Registry) (sound : Sound init)
    (config later : Pool lower)
    (reached : server.Reaches lower jobs (freshSubscriptionRules lower) init config)
    (goesOn : Reach (freshSubscriptionRules lower) (server.pool jobs) config later) :
    (∀ id, EditionsKept init id config.state later.state) ∧
      (∀ pid auditEventId subscription actor requestId, Known (later.state.trace pid)
          (.updateSubscription auditEventId subscription actor requestId) (.ok true) →
        ∃ before, SubscriptionRead (later.state.trace pid) before ∧
          before.updateRules subscription.rules = .ok subscription ∧
          edition before ∈ editions init subscription.id later.state.history) ∧
      (∀ env auditEventId subscription actor requestId,
        (runCall lower env (.updateSubscription auditEventId subscription actor requestId)
          later.state.registry).1 ≠ .ok true →
        (runCall lower env (.updateSubscription auditEventId subscription actor requestId)
          later.state.registry).2 = later.state.registry) ∧
      (∀ pid, (jobs pid).request.edits → UpdateAnswered server jobs later pid) ∧
      ∀ subscription, ReadFrom config.state.registry.tables subscription → ∀ unicode alert,
        Explains unicode alert (editions init subscription.id later.state.history)
          (evaluateSubscription unicode subscription alert) := by
  have whole := Reach.trans _ _ _ _ _ reached goesOn
  refine ⟨editions_kept sound reached goesOn, ?_, ?_, ?_, ?_⟩
  · intro pid auditEventId subscription actor requestId known
    obtain ⟨past, earlier, proper⟩ := (edits_justified whole pid).earlier known
    obtain ⟨before, read, updated⟩ := proper.versioned
    have remembered := read.mono earlier
    refine ⟨before, remembered, updated, ?_⟩
    rw [(Subscription.updateRules_ok updated).1]
    exact (edited_reach sound whole).read pid before remembered
  · intro env auditEventId subscription actor requestId failed
    exact update_unchanged failed
  · intro pid edits
    exact update_answered sound whole edits
  · intro subscription read unicode alert
    exact read_explained sound reached goesOn read unicode alert

end Runs

namespace Scenario

def disputedId : SubscriptionId := ⟨60⟩

def subscribed : Registry :=
  { linked with
    tables := { linked.tables with
      subscriptions := [{ createdAt := 0, subscription :=
        { id := disputedId, consumerId := subscriber, version := 1
          rules := [.severity .greaterThanOrEqual .low], nonempty := by simp } }] } }

theorem subscribed_sound : Sound subscribed where
  accounts := linked_sound.accounts
  owners := linked_sound.owners
  subscriptionIds := by decide
  tokens := by decide

def editing (pid : Nat) : Job :=
  { fresh := Supply.of pid, headers := signedIn "owner"
    request := .updateSubscription disputedId
      [.severity "GREATER_THAN_OR_EQUAL" (if pid = 0 then .high else .medium)] }

def dispute : List (Label Env) :=
  runs 0 5 ++ runs 1 5 ++ [.call 0 env, .call 1 env]

def settledOnce (config : Pool lower) : Bool :=
  decide ((successes disputedId config.state.history).length = 1) && match config.slots 1 with
    | .active (.fail (.api error)) => decide (error.code = "SUBSCRIPTION_MODIFIED_CONCURRENTLY")
    | _ => false

theorem subscription_edits_lose_nothing_disputed :
    ∃ config : Pool Scenario.lower, settledOnce config = true ∧
      EditionsKept subscribed disputedId config.state config.state := by
  obtain ⟨config, arrived, settled, _⟩ := play_reaches (server.pool editing)
    (initially (World.initial subscribed) : Pool Scenario.lower) noSubscriptions noSubscriptions_legal
    dispute settledOnce (by decide +kernel)
  have kept := subscription_edits_lose_nothing server editing Scenario.lower subscribed
    subscribed_sound config config arrived .start
  exact ⟨config, settled, kept.1 disputedId⟩

end Scenario

end SafeCameroon.Access
