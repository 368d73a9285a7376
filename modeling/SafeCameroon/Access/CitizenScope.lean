import SafeCameroon.Access.SubscriptionEdits
import SafeCameroon.Postgres.SubscriptionRules

namespace SafeCameroon.Access

open Process Proc Text CitizenSubscriptions

/-- What a citizen chooses to hear of. -/
structure Choice where
  incidentTypes : List IncidentType
  minimumSeverity : Severity
  geography : List String

def Request.choice : Request → Option Choice
  | .createCitizenSubscription request => some
      { incidentTypes := request.incidentTypes, minimumSeverity := request.minimumSeverity
        geography := request.geography }
  | .updateCitizenSubscription _ request => some
      { incidentTypes := request.incidentTypes, minimumSeverity := request.minimumSeverity
        geography := request.geography }
  | _ => none

/-- An alert that someone with the choice is to hear of: one for everybody, severe enough, of a chosen
type, and in a place whose name contains that of a chosen area. -/
structure Choice.Wants (choice : Choice) (unicode : UnicodeData) (alert : Alert) : Prop where
  shared : alert.visibility = .community ∨ alert.visibility = .public
  severe : choice.minimumSeverity.rank ≤ alert.severity.rank
  kind : alert.incidentType ∈ choice.incidentTypes
  near : ∃ area ∈ choice.geography, trim area ≠ "" ∧
    contains (unicode.toLowercase alert.targetGeography.text) (unicode.toLowercase (trim area)) = true

def Choice.rules (choice : Choice) : List SubscriptionRule :=
  [.incidentType choice.incidentTypes, .severity .greaterThanOrEqual choice.minimumSeverity,
    .geography (geoAreas choice.geography), .visibility citizenAlertVisibilities]

section Rules

variable (unicode : UnicodeData) (alert : Alert)

theorem mem_geoAreas (geography : List String) (area : GeoArea) :
    area ∈ geoAreas geography ↔ ∃ name ∈ geography, trim name ≠ "" ∧ area.text = trim name := by
  rw [geoAreas, List.mem_filterMap]
  constructor
  · intro named
    obtain ⟨name, member, made⟩ := named
    refine ⟨name, member, ?_⟩
    by_cases blank : trim name = ""
    · simp [GeoArea.new, blank, Except.toOption] at made
    · simp only [GeoArea.new, blank, dif_neg, not_false_eq_true, Except.toOption,
        Option.some.injEq] at made
      exact ⟨blank, by rw [← made]⟩
  · intro named
    obtain ⟨name, member, visible, same⟩ := named
    refine ⟨name, member, ?_⟩
    cases area with
    | mk text trimmed nonblank =>
        dsimp only at same
        subst same
        simp [GeoArea.new, visible, Except.toOption]

theorem geography_matches_iff (geography : List String) :
    ((geoAreas geography).any fun area => area.matchesTarget unicode alert.targetGeography) = true ↔
      ∃ area ∈ geography, trim area ≠ "" ∧ contains (unicode.toLowercase alert.targetGeography.text)
        (unicode.toLowercase (trim area)) = true := by
  rw [List.any_eq_true]
  constructor
  · intro ⟨area, member, found⟩
    obtain ⟨name, chosen, visible, same⟩ := (mem_geoAreas geography area).mp member
    rw [GeoArea.matchesTarget, same] at found
    exact ⟨name, chosen, visible, found⟩
  · intro ⟨name, chosen, visible, found⟩
    refine ⟨{ text := trim name, trimmed := trim_trim name, nonblank := visible }, ?_, found⟩
    exact (mem_geoAreas geography _).mpr ⟨name, chosen, visible, rfl⟩

theorem rules_match_iff (choice : Choice) (subscription : Subscription)
    (made : subscription.rules = choice.rules) :
    (evaluateSubscription unicode subscription alert).matched = true ↔ choice.Wants unicode alert := by
  have places := geography_matches_iff unicode alert choice.geography
  simp only [evaluateSubscription, made, Choice.rules, List.map_cons, List.map_nil, List.all_cons,
    List.all_nil, evaluateRule, Bool.and_true, Bool.and_eq_true, decide_eq_true_eq,
    Comparison.evaluate, places, citizenAlertVisibilities, List.mem_cons, List.not_mem_nil, or_false]
  constructor
  · intro ⟨kind, severe, near, shared⟩
    exact { shared, severe, kind, near }
  · intro wants
    exact ⟨wants.kind, wants.severe, wants.near, wants.shared⟩

end Rules

section Handlers

def Request.Scoped (request : Request) : Call → Prop
  | .createSubscription subscription | .updateSubscription _ subscription _ _ =>
      ∀ choice, request.choice = some choice → subscription.rules = choice.rules
  | _ => True

variable {server : Server} {fresh : Supply} (headers : List (String × Bytes)) (requestId : Uuid)

theorem Lookup.inScope (request : Request) (call : Call) (lookup : Lookup call) :
    request.Scoped call := by
  cases call <;> trivial

theorem prepare_rules {request : CreateRequest} {prepared : PreparedCitizenSubscription}
    (prepares : prepare server.sha256 fresh request = .ok prepared) :
    ∀ choice, (Request.createCitizenSubscription request).choice = some choice →
      prepared.subscription.rules = choice.rules := by
  intro choice same
  cases same
  simp only [prepare, prepareCitizenSubscription] at prepares
  split at prepares
  · cases prepares
  · split at prepares
    · cases prepares
    · split at prepares
      · cases prepares
      · cases prepares
        rfl

theorem create_scoped (request : CreateRequest) :
    (create server.sha256 fresh headers request requestId).Uses
      (Request.createCitizenSubscription request).Scoped := by
  apply uses_bind
  · exact lift_uses (Lookup.inScope _) (enforceRateLimit_uses _ _ _)
  · intro _
    cases prepares : prepare server.sha256 fresh request with
    | error _ => trivial
    | ok prepared =>
        apply uses_bind _ _ _ (orFail_uses _ trivial)
        intro _
        apply uses_bind _ _ _ (orFail_uses _ trivial)
        intro _
        exact uses_bind _ _ _ (orFail_uses _ (prepare_rules prepares)) fun _ => trivial

theorem update_scoped (id : SubscriptionId) (request : UpdateRequest) :
    (update server.sha256 fresh headers id request requestId).Uses
      (Request.updateCitizenSubscription id request).Scoped := by
  apply uses_bind
  · exact authorizeCitizenSubscription_uses (Lookup.inScope _) headers requestId id
  · intro before
    split
    · trivial
    · split
      · trivial
      · cases updated : before.updateRules (updatedRules request) with
        | error _ => trivial
        | ok subscription =>
            have saved : ∀ choice, (Request.updateCitizenSubscription id request).choice =
                some choice → subscription.rules = choice.rules := by
              intro choice same
              cases same
              exact (Subscription.updateRules_ok updated).2.2.1
            apply uses_bind _ _ _ (orFail_uses _ saved)
            intro stored
            cases stored with
            | false => trivial
            | true =>
                apply uses_bind
                · unfold updatePreference
                  split
                  · trivial
                  · split
                    · trivial
                    · exact orFail_uses _ trivial
                · exact fun _ => trivial

theorem run_scoped (server : Server) (job : Job) : (server.run job).Uses job.request.Scoped := by
  have others : job.request.choice = none → (server.run job).Uses job.request.Scoped := by
    intro none
    apply uses_mono _ _ (run_calls server job)
    intro call _
    cases call with
    | createSubscription subscription =>
        intro choice same
        rw [none] at same
        cases same
    | updateSubscription auditEventId subscription actor requestId =>
        intro choice same
        rw [none] at same
        cases same
    | _ => trivial
  cases made : job.request with
  | createCitizenSubscription request =>
      rw [Server.run, made]
      exact uses_bind _ _ _ (create_scoped _ _ _) fun _ => trivial
  | updateCitizenSubscription id request =>
      rw [Server.run, made]
      exact uses_bind _ _ _ (update_scoped _ _ _ _) fun _ => trivial
  | _ =>
      rw [← made]
      apply others
      rw [made]
      rfl

end Handlers

theorem rules_of_saves {request : Request} {id : SubscriptionId} {call : Call}
    {answer : Except Failure call.Res} {saved : Edition} (saves : call.saves id answer = some saved)
    (inScope : request.Scoped call) : ∀ choice, request.choice = some choice →
      saved.rules = choice.rules := by
  unfold Call.saves at saves
  split at saves
  · split at saves
    · cases saves
      exact inScope
    · cases saves
  · unfold Call.updates at saves
    split at saves
    · split at saves
      · cases saves
        exact inScope
      · cases saves
    · cases saves

section Answers

def Request.subscribes : Request → Response → Option SubscriptionId
  | .createCitizenSubscription _, .citizenSubscription response => some response.subscriptionId
  | .updateCitizenSubscription id _, _ => some id
  | _, _ => none

def Made (past : Past) (id : SubscriptionId) : Prop :=
  ∃ subscription, subscription.id = id ∧ Known past (.createSubscription subscription) (.ok ())

/-- A citizen is told of a new subscription only when it was saved. -/
def CreationAnswered (job : Job) (past : Past) (result : Except HandlerError Response) : Prop :=
  ∀ request, job.request = .createCitizenSubscription request → ∀ response, result = .ok response →
    ∃ id, job.request.subscribes response = some id ∧ Made past id

variable {server : Server} {job : Job}

theorem savePrepared_made (prepared : PreparedCitizenSubscription) (requestId : Uuid) (past : Past) :
    (savePrepared prepared requestId).Honest (fun _ _ => True)
      (fun later result => ∀ response, result = .ok response → Made later response.subscriptionId)
      past := by
  have refused : ∀ (later : Past) error, ∀ response : CreateResponse,
      (Except.error error : Except HandlerError CreateResponse) = .ok response →
      Made later response.subscriptionId := by
    intro later error response same
    cases same
  refine honest_perform _ _ _ _ _ trivial (fun _ => ?_) fun _ => refused _ _
  refine honest_perform _ _ _ _ _ trivial (fun _ => ?_) fun _ => refused _ _
  refine honest_perform _ _ _ _ _ trivial (fun _ => ?_) fun _ => refused _ _
  intro response same
  cases same
  exact ⟨prepared.subscription, rfl, List.mem_cons_self⟩

theorem create_made (request : CreateRequest) :
    (create server.sha256 job.fresh job.headers request job.requestId).Honest (fun _ _ => True)
      (fun later result => ∀ response, result = .ok response → Made later response.subscriptionId)
      [] := by
  refine honest_bind (fun _ _ => True) _ _ _ [] ?_ ?_ ?_
  · exact honest_post _ _ (fun _ _ _ => trivial) _ _ (honest_uses _ (fun _ => True) _
      (fun _ _ _ _ => trivial) (fun _ _ _ _ _ => trivial) _ (lift_uses (fun _ lookup => lookup)
        (enforceRateLimit_uses _ _ _)) [] trivial)
  · intro past _ _
    cases prepare server.sha256 job.fresh request with
    | error _ =>
        intro response same
        cases same
    | ok prepared => exact savePrepared_made prepared job.requestId past
  · intro past error _ response same
    cases same

theorem run_creates (server : Server) (job : Job) :
    (server.run job).Honest (fun _ _ => True) (CreationAnswered job) [] := by
  cases made : job.request with
  | createCitizenSubscription request =>
      unfold Server.run CreationAnswered
      simp only [made]
      refine honest_bind _ _ _ _ [] (create_made request) ?_ ?_
      · intro past response known _ _ answer same
        cases same
        exact ⟨_, rfl, known response rfl⟩
      · intro past error known _ _ answer same
        cases same
  | _ =>
      refine honest_post _ _ ?_ _ _ (honest_uses _ (fun _ => True) _ (fun _ _ _ _ => trivial)
        (fun _ _ _ _ _ => trivial) _ (run_calls server job) [] trivial)
      intro past result _ request creates
      rw [made] at creates
      cases creates

end Answers

section Runs

/-- The choices of the requests that saved the subscription, the latest first. -/
def choices (jobs : Nat → Job) (id : SubscriptionId) (history : List Entry) : List Choice :=
  history.filterMap fun entry =>
    (entry.call.saves id entry.answer).bind fun _ => (jobs entry.pid).request.choice

def SelfServed (jobs : Nat → Job) (id : SubscriptionId) (history : List Entry) : Prop :=
  ∀ entry ∈ history, ∀ saved, entry.call.saves id entry.answer = some saved →
    (jobs entry.pid).request.choice ≠ none

variable {lower : PostgresReviewerRepository.Lower} {server : Server} {jobs : Nat → Job}
  {init : Registry} {config : Pool lower}

theorem saved_rules
    (reached : server.Reaches lower jobs (freshSubscriptionRules lower) init config)
    {entry : Entry} (made : entry ∈ config.state.history) {id : SubscriptionId} {saved : Edition}
    (saves : entry.call.saves id entry.answer = some saved) {choice : Choice}
    (chosen : (jobs entry.pid).request.choice = some choice) : saved.rules = choice.rules := by
  have honest : ∀ pid, (server.pool jobs pid).Honest
      (fun _ call => (jobs pid).request.Scoped call) (fun _ _ => True) [] := by
    intro pid
    have uses := honest_uses (fun _ call => (jobs pid).request.Scoped call) (fun _ => True) _
      (fun _ _ _ inScope => inScope) (fun _ _ _ _ _ => trivial) _ (run_scoped server (jobs pid)) []
      trivial
    exact honest_post _ _ (fun _ _ _ => trivial) _ _ uses
  have justified := justified_reach (recorded lower) (freshSubscriptionRules lower)
    (fun pid _ call => (jobs pid).request.Scoped call) (fun _ _ _ => True) _ honest
    (initially (World.initial init)) (fun _ => rfl) (fun _ => rfl) config reached entry.pid
  have known : ⟨entry.call, entry.answer⟩ ∈ config.state.trace entry.pid :=
    List.mem_map.mpr ⟨entry, List.mem_filter.mpr ⟨made, by simp⟩, rfl⟩
  obtain ⟨_, _, inScope⟩ := justified.earlier known
  exact rules_of_saves saves inScope choice chosen

theorem answered_saved (sound : Sound init)
    (reached : server.Reaches lower jobs (freshSubscriptionRules lower) init config) {pid : Nat}
    {choice : Choice} (chosen : (jobs pid).request.choice = some choice) {response : Response}
    (answered : config.slots pid = .active (.done response)) :
    ∃ id, (jobs pid).request.subscribes response = some id ∧
      ∃ entry ∈ config.state.history, entry.pid = pid ∧ ∃ saved,
        entry.call.saves id entry.answer = some saved ∧ saved.rules = choice.rules := by
  have known : ∃ id saved call answer, (jobs pid).request.subscribes response = some id ∧
      Known (config.state.trace pid) call answer ∧ call.saves id answer = some saved := by
    cases made : (jobs pid).request with
    | createCitizenSubscription request =>
        have told := told_reach (recorded lower) (freshSubscriptionRules lower) _ _ _
          (fun pid => run_creates server (jobs pid)) (initially (World.initial init)) (fun _ => rfl)
          config reached pid
        rw [Told, answered] at told
        obtain ⟨id, subscribes, subscription, same, created⟩ := told request made response rfl
        refine ⟨id, edition subscription, _, _, made ▸ subscribes, created, ?_⟩
        exact if_pos same
    | updateCitizenSubscription id request =>
        have told := edits_told reached pid
        rw [Told, answered] at told
        have ended : EditsEnded (jobs pid) (config.state.trace pid) (.ok response) := told
        simp only [EditsEnded, made] at ended
        obtain ⟨_, subscription, _, _, updated⟩ := ended.success response rfl
        have asks : (jobs pid).request.asks (jobs pid).requestId =
            some (id, .ok (updatedRules request)) := by
          rw [made]
          rfl
        refine ⟨id, edition subscription, _, _, rfl, updated, ?_⟩
        exact if_pos (update_as_asked sound reached asks updated).1
    | _ =>
        rw [made] at chosen
        cases chosen
  obtain ⟨id, saved, call, answer, subscribes, known, saves⟩ := known
  obtain ⟨before, member⟩ := World.mem_trace pid config.state call answer known
  exact ⟨id, subscribes, _, member, rfl, saved, saves, saved_rules reached member saves chosen⟩

theorem latest_choice {id : SubscriptionId} {history : List Entry} {saved : Edition}
    (own : SelfServed jobs id history)
    (rules : ∀ entry ∈ history, ∀ saved choice, entry.call.saves id entry.answer = some saved →
      (jobs entry.pid).request.choice = some choice → saved.rules = choice.rules)
    (latest : (history.filterMap fun entry => entry.call.saves id entry.answer).head? = some saved) :
    ∃ choice, (choices jobs id history).head? = some choice ∧ saved.rules = choice.rules := by
  induction history with
  | nil => cases latest
  | cons entry history ih =>
      cases saves : entry.call.saves id entry.answer with
      | none =>
          simp only [List.filterMap_cons, saves] at latest
          simp only [choices, List.filterMap_cons, saves, Option.bind_none]
          exact ih (fun other member => own other (List.mem_cons_of_mem _ member))
            (fun other member => rules other (List.mem_cons_of_mem _ member)) latest
      | some edition =>
          simp only [List.filterMap_cons, saves, List.head?_cons, Option.some.injEq] at latest
          subst latest
          cases chosen : (jobs entry.pid).request.choice with
          | none => exact absurd chosen (own entry List.mem_cons_self _ saves)
          | some choice =>
              refine ⟨choice, ?_, rules entry List.mem_cons_self _ _ saves chosen⟩
              simp only [choices, List.filterMap_cons, saves, Option.bind_some, chosen,
                List.head?_cons]

/-- What is read back of a stored subscription matches the alerts that the latest of the choices
wants, and no others. -/
def LatestWanted (jobs : Nat → Job) (id : SubscriptionId) (world : World) : Prop :=
  ∀ subscription, PostgresSubscriptionRepository.findById id world.registry.tables =
      some subscription →
    ∃ choice, (choices jobs id world.history).head? = some choice ∧
      ∃ read, subscriptionFromRow (subscriptionRecord subscription) = .ok read ∧
        ∀ unicode alert, (evaluateSubscription unicode read alert).matched = true ↔
          choice.Wants unicode alert

theorem latest_wanted (sound : Sound init)
    (reached : server.Reaches lower jobs (freshSubscriptionRules lower) init config)
    (id : SubscriptionId) (began : PostgresSubscriptionRepository.findById id init.tables = none)
    (own : SelfServed jobs id config.state.history) : LatestWanted jobs id config.state := by
  intro subscription stored
  have there : storedEdition id config.state.registry = some (edition subscription) := by
    rw [storedEdition, stored]
    rfl
  have latest := (edited_reach sound reached).stored id _ there
  have older : storedEdition id init = none := by
    rw [storedEdition, began]
    rfl
  rw [editions, older, Option.toList_none, List.append_nil] at latest
  obtain ⟨choice, chosen, rules⟩ := latest_choice own
    (fun entry made saved choice saves brings => saved_rules reached made saves brings) latest
  refine ⟨choice, chosen, subscription, subscriptionFromRow_subscriptionRecord subscription, ?_⟩
  intro unicode alert
  exact rules_match_iff unicode alert choice subscription rules

/-- However a citizen's own requests made and edited a subscription, it is for the alerts that the
latest of their choices wants; and no request is answered with success whose choice was not saved. -/
theorem citizen_scope (server : Server) (jobs : Nat → Job) (lower : PostgresReviewerRepository.Lower)
    (init : Registry) (sound : Sound init) (config : Pool lower)
    (reached : server.Reaches lower jobs (freshSubscriptionRules lower) init config) :
    (∀ id, PostgresSubscriptionRepository.findById id init.tables = none →
        SelfServed jobs id config.state.history → LatestWanted jobs id config.state) ∧
      ∀ pid choice response, (jobs pid).request.choice = some choice →
        config.slots pid = .active (.done response) →
        ∃ id, (jobs pid).request.subscribes response = some id ∧
          ∃ entry ∈ config.state.history, entry.pid = pid ∧ ∃ saved,
            entry.call.saves id entry.answer = some saved ∧ saved.rules = choice.rules := by
  refine ⟨latest_wanted sound reached, ?_⟩
  intro pid choice response chosen answered
  exact answered_saved sound reached chosen answered

end Runs

namespace Scenario

def citizensToken : String := (Supply.of 0 2).display

/-- A citizen signs up for two areas, one of them blank, and then moves. -/
def moving (pid : Nat) : Job :=
  if pid = 0 then
    { fresh := Supply.of 0, headers := []
      request := .createCitizenSubscription
        { incidentTypes := [.missingChild], minimumSeverity := .high, geography := ["  ", " Douala "]
          pushSubscription := ⟨"https://push.example.org", "key", "auth"⟩, locale := none } }
  else
    { fresh := Supply.of 1
      headers := [("management-token", asciiBytes citizensToken)]
      request := .updateCitizenSubscription ⟨Supply.of 0 1⟩
        { incidentTypes := [.missingChild], minimumSeverity := .low, geography := ["Buea"]
          pushSubscription := none } }

def unusedIds (config : Pool lower) : Label Env → Bool
  | .call pid _ => match config.slots pid with
    | .active (.call (.createSubscription subscription) _) => config.state.history.all fun entry =>
        !(entry.before.tables.subscriptions.map (·.subscription.id)).contains subscription.id
    | _ => true
  | _ => true

theorem unusedIds_legal (config : Pool lower) (label : Label Env)
    (checked : unusedIds config label = true) :
    (freshSubscriptionRules lower).legal config label := by
  cases label with
  | start pid => trivial
  | halt pid => exact fun _ _ _ => trivial
  | call pid env =>
      intro call next slot
      simp only [unusedIds, slot] at checked
      cases call with
      | createSubscription subscription =>
          intro entry made there
          have unused := List.all_eq_true.mp checked entry made
          rw [List.contains_iff_mem.mpr there] at unused
          cases unused
      | _ => trivial

/-- Both requests saved the citizen's subscription and have been answered. -/
def moved (config : Pool lower) : Bool :=
  (PostgresSubscriptionRepository.findById ⟨Supply.of 0 1⟩ config.state.registry.tables).any
      (fun subscription => decide (subscription.version = 2)) &&
    (config.slots 0).returned.isSome && (config.slots 1).returned.isSome

theorem citizen_scope_moved :
    ∃ config : Pool Scenario.lower, moved config = true ∧
      LatestWanted moving ⟨Supply.of 0 1⟩ config.state ∧
      ∀ pid choice, pid < 2 → (moving pid).request.choice = some choice →
        ∃ id, ∃ entry ∈ config.state.history, entry.pid = pid ∧ ∃ saved,
          entry.call.saves id entry.answer = some saved ∧ saved.rules = choice.rules := by
  obtain ⟨config, arrived, found, _⟩ := play_reaches (server.pool moving)
    (initially (World.initial empty) : Pool Scenario.lower) unusedIds unusedIds_legal
    (runs 0 4 ++ runs 1 3) moved (by decide +kernel)
  have own : SelfServed moving ⟨Supply.of 0 1⟩ config.state.history := by
    intro entry member saved _ none
    unfold moving at none
    split at none
    · cases none
    · cases none
  obtain ⟨wanted, saved⟩ := citizen_scope server moving Scenario.lower empty empty_sound config
    arrived
  refine ⟨config, found, wanted ⟨Supply.of 0 1⟩ rfl own, ?_⟩
  simp only [moved, Bool.and_eq_true, Option.isSome_iff_exists] at found
  intro pid choice below chosen
  have answered : ∃ response, (config.slots pid).returned = some response := by
    have two : pid = 0 ∨ pid = 1 := by omega
    rcases two with rfl | rfl
    · exact found.1.2
    · exact found.2
  obtain ⟨response, done⟩ := answered
  obtain ⟨id, _, kept⟩ := saved pid choice response chosen (Slot.returned_iff.mp done)
  exact ⟨id, kept⟩

end Scenario

end SafeCameroon.Access
