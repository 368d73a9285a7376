import SafeCameroon.Access.AccountRuns

namespace SafeCameroon.Access

open Process

section Runs

variable {lower : PostgresReviewerRepository.Lower}

def World.Created (world : World) (pid : Nat) (reviewerId : Uuid) : Prop :=
  ∃ email, Known (world.trace pid) (.createReviewer reviewerId email) (.ok .created)

/-- The request found so many reviewers when it counted them. -/
def World.Counted (world : World) (pid count : Nat) : Prop :=
  Known (world.trace pid) .countReviewers (.ok count)

def Holds (registry : Registry) (reviewerId : Uuid) (role : Role)
    (organizationId : Option OrganizationId) : Prop :=
  (⟨reviewerId, role, organizationId⟩ : MembershipRow) ∈ registry.tables.memberships

instance (registry : Registry) (reviewerId : Uuid) (role : Role)
    (organizationId : Option OrganizationId) :
    Decidable (Holds registry reviewerId role organizationId) :=
  inferInstanceAs (Decidable (_ ∈ registry.tables.memberships))

def IsPlatformAdmin (registry : Registry) (reviewerId : Uuid) : Prop :=
  Holds registry reviewerId .platformAdmin none

def AtMostMember (registry : Registry) (reviewerId : Uuid) (organizationId : OrganizationId) : Prop :=
  ∀ row ∈ registry.tables.memberships, row.reviewerId = reviewerId →
    row.role = .member ∧ row.organizationId = some organizationId

def RegisteredBy (server : Server) (jobs : Nat → Job) (world : World)
    (granter reviewerId : Uuid) : Prop :=
  ∃ pid count, world.Created pid reviewerId ∧ world.Counted pid count ∧ 0 < count ∧
    (jobs pid).caller server = some granter

/-- Nobody comes by a membership that no one was entitled to grant. -/
structure NoEscalation (server : Server) (jobs : Nat → Job) (config : Pool lower) : Prop where
  countedOnce : ∀ pid reviewerId, config.state.Created pid reviewerId →
    ∃ count, config.state.Counted pid count ∧ ∀ other, config.state.Counted pid other → other = count
  granted : ∀ pid reviewerId count, config.state.Created pid reviewerId →
    config.state.Counted pid count → 0 < count →
    ∃ granter, (jobs pid).caller server = some granter ∧
      (IsPlatformAdmin config.state.registry granter ∨ ∃ organizationId,
        Holds config.state.registry granter .orgAdmin (some organizationId) ∧
        AtMostMember config.state.registry reviewerId organizationId ∧
        ∀ response, config.slots pid = .active (.done response) →
          Holds config.state.registry reviewerId .member (some organizationId))
  adminsDescend : ∀ row ∈ config.state.registry.tables.memberships, row.role ≠ .member →
    ∀ ancestor, Relation.TransGen (RegisteredBy server jobs config.state) ancestor row.reviewerId →
      IsPlatformAdmin config.state.registry ancestor
  membersOnly : ∀ admin organizationId,
    Holds config.state.registry admin .orgAdmin (some organizationId) → ∀ reviewerId,
      Relation.TransGen (RegisteredBy server jobs config.state) admin reviewerId →
      AtMostMember config.state.registry reviewerId organizationId
  shaped : ∀ row ∈ config.state.registry.tables.memberships,
    row.organizationId = none ↔ row.role = .platformAdmin

theorem counted_once {server : Server} {job : Job} {trace : Past}
    (justified : Justified (AccountsProper server job) trace) {count other : Nat}
    (first : Known trace .countReviewers (.ok count))
    (second : Known trace .countReviewers (.ok other)) : count = other := by
  induction trace with
  | nil => cases first
  | cons latest past ih =>
      rcases List.mem_cons.mp first with head | earlier
      · rcases List.mem_cons.mp second with also | before
        · have same := head.trans also.symm
          simpa using same
        · subst head
          exact absurd before (justified.1.allowed (.ok other))
      · rcases List.mem_cons.mp second with also | before
        · subst also
          exact absurd earlier (justified.1.allowed (.ok count))
        · exact ih justified.2 earlier before

section Grants

variable {server : Server} {job : Job} {trace : Past} {reviewerId : Uuid} {email : String}

theorem created_granted (justified : Justified (AccountsProper server job) trace)
    (created : Known trace (.createReviewer reviewerId email) (.ok .created)) :
    ∃ request count role organizationId, job.request = .register request ∧
      reviewerId = job.fresh 0 ∧
      Granted server job request trace count role organizationId := by
  obtain ⟨past, grown, proper⟩ := justified.earlier created
  obtain ⟨request, count, role, organizationId, registers, same, _, granted⟩ := proper.allowed
  exact ⟨request, count, role, organizationId, registers, same, granted.mono grown⟩

theorem added_granted {role : Role} {organizationId : Option OrganizationId}
    (justified : Justified (AccountsProper server job) trace)
    (added : Known trace (.addMembership reviewerId role organizationId) (.ok ())) :
    ∃ request count, job.request = .register request ∧
      (∃ email, Known trace (.createReviewer reviewerId email) (.ok .created)) ∧
      Granted server job request trace count role organizationId := by
  obtain ⟨past, grown, proper⟩ := justified.earlier added
  obtain ⟨request, count, registers, _, created, granted⟩ := proper.allowed
  exact ⟨request, count, registers, ⟨_, created.mono grown⟩, granted.mono grown⟩

end Grants

theorem authorizeMembershipGrant_cases {granter : Option Membership} {count : Nat} {role : Role}
    {organizationId : Option OrganizationId} (populated : 0 < count)
    (allowed : authorizeMembershipGrant granter count role organizationId = .ok ()) :
    ∃ membership, granter = some membership ∧ (membership.role = .platformAdmin ∨
      ∃ owner, membership.role = .orgAdmin ∧ membership.organizationId = some owner ∧
        role = .member ∧ organizationId = some owner) := by
  simp only [authorizeMembershipGrant, Nat.ne_of_gt populated, if_false] at allowed
  split at allowed
  · exact ⟨_, rfl, Or.inl rfl⟩
  · rename_i owner
    split at allowed
    · rename_i wanted
      exact ⟨_, rfl, Or.inr ⟨owner, rfl, rfl, wanted.1, wanted.2⟩⟩
    · cases allowed
  · cases allowed

section Reached

variable {server : Server} {jobs : Nat → Job} {init : Registry} {rules : Rules (accessMachine lower)}
  {config : Pool lower}

theorem membership_of_created (sound : Sound init)
    (reached : server.Reaches lower jobs rules init config) {pid : Nat} {reviewerId : Uuid}
    (created : config.state.Created pid reviewerId) {request : Auth.RegisterRequest} {count : Nat}
    {role : Role} {organizationId : Option OrganizationId}
    (registers : (jobs pid).request = .register request)
    (granted : Granted server (jobs pid) request (config.state.trace pid) count role organizationId)
    {row : MembershipRow} (stored : row ∈ config.state.registry.tables.memberships)
    (theirs : row.reviewerId = reviewerId) : row.role = role ∧ row.organizationId = organizationId := by
  have lineage := lineage_reach sound reached
  obtain ⟨email, made⟩ := created
  rcases lineage.added row stored with initially | ⟨other, known⟩
  · have there := sound.accounts.known row initially
    exact absurd (theirs ▸ there) (lineage.created pid reviewerId email made).2
  · obtain ⟨again, counted, alsoRegisters, ⟨another, alsoMade⟩, also⟩ :=
      added_granted (accounts_justified reached other) known
    obtain rfl : pid = other := lineage.once pid other reviewerId email another made (theirs ▸ alsoMade)
    obtain rfl : request = again := by
      rw [registers] at alsoRegisters
      exact Request.register.inj alsoRegisters
    obtain rfl : count = counted :=
      counted_once (accounts_justified reached pid) granted.counted also.counted
    have same := granted.requested.symm.trans also.requested
    simp only [Except.ok.injEq, Prod.mk.injEq] at same
    exact ⟨same.1.symm, same.2.symm⟩

theorem membership_of_finished (sound : Sound init)
    (reached : server.Reaches lower jobs rules init config) {pid : Nat}
    {request : Auth.RegisterRequest} (registers : (jobs pid).request = .register request)
    {response : Response} (finished : config.slots pid = .active (.done response)) :
    ∃ role organizationId,
      Holds config.state.registry ((jobs pid).fresh 0) role organizationId := by
  have told := accounts_told reached pid
  simp only [Told, finished, Proc.Honest] at told
  obtain ⟨role, organizationId, known⟩ := (told.registered request registers).added response rfl
  exact ⟨role, organizationId, (lineage_reach sound reached).stored pid _ role organizationId known⟩

theorem registration_granted (sound : Sound init)
    (reached : server.Reaches lower jobs rules init config) (pid : Nat) (reviewerId : Uuid)
    (count : Nat) (created : config.state.Created pid reviewerId)
    (counted : config.state.Counted pid count) (populated : 0 < count) :
    ∃ granter, (jobs pid).caller server = some granter ∧
      (IsPlatformAdmin config.state.registry granter ∨ ∃ organizationId,
        Holds config.state.registry granter .orgAdmin (some organizationId) ∧
        AtMostMember config.state.registry reviewerId organizationId ∧
        ∀ response, config.slots pid = .active (.done response) →
          Holds config.state.registry reviewerId .member (some organizationId)) := by
  have lineage := lineage_reach sound reached
  have justified := accounts_justified reached pid
  obtain ⟨email, made⟩ := created
  obtain ⟨request, other, role, organizationId, registers, drawn, granted⟩ :=
    created_granted justified made
  obtain rfl : other = count := counted_once justified granted.counted counted
  obtain ⟨granter, named, allowed⟩ := granted.allowed
  obtain ⟨membership, found, entitled⟩ := authorizeMembershipGrant_cases populated allowed
  obtain ⟨granterId, caller, known⟩ := named membership found
  have held := lineage.found pid granterId membership known
  refine ⟨granterId, caller, ?_⟩
  rcases entitled with admin | ⟨owner, orgAdmin, belongs, plain, inside⟩
  · have shape := lineage.sound.accounts.shaped _ held
    left
    rw [admin] at held shape
    have outside : membership.organizationId = none := by simpa [membershipShape] using shape
    rwa [outside] at held
  · right
    rw [orgAdmin, belongs] at held
    have atMost : AtMostMember config.state.registry reviewerId owner := by
      intro row stored theirs
      have same := membership_of_created sound reached ⟨email, made⟩ registers granted stored theirs
      rwa [plain, inside] at same
    refine ⟨owner, held, atMost, ?_⟩
    intro response finished
    obtain ⟨given, place, stored⟩ := membership_of_finished sound reached registers finished
    rw [← drawn] at stored
    obtain ⟨rfl, rfl⟩ := atMost _ stored rfl
    exact stored

theorem registeredBy_cases (sound : Sound init)
    (reached : server.Reaches lower jobs rules init config) {granter reviewerId : Uuid}
    (registered : RegisteredBy server jobs config.state granter reviewerId) :
    IsPlatformAdmin config.state.registry granter ∨ ∃ organizationId,
      Holds config.state.registry granter .orgAdmin (some organizationId) ∧
      AtMostMember config.state.registry reviewerId organizationId := by
  obtain ⟨pid, count, created, counted, populated, caller⟩ := registered
  obtain ⟨other, named, entitled⟩ :=
    registration_granted sound reached pid reviewerId count created counted populated
  obtain rfl : other = granter := Option.some.inj (named.symm.trans caller)
  rcases entitled with admin | ⟨organizationId, held, atMost, _⟩
  · exact Or.inl admin
  · exact Or.inr ⟨organizationId, held, atMost⟩

/-- No run of requests lets anybody come by a membership that no one was entitled to grant, and no
membership changes. -/
theorem registration_never_escalates (server : Server) (jobs : Nat → Job) (init : Registry)
    (sound : Sound init) (config : Pool lower)
    (reached : server.Reaches lower jobs (freeRules lower) init config) :
    NoEscalation server jobs config ∧ ∀ later : Pool lower,
      Reach (freeRules lower) (server.pool jobs) config later →
      config.state.registry.tables.memberships <+: later.state.registry.tables.memberships := by
  have lineage := lineage_reach sound reached
  have single : ∀ one ∈ config.state.registry.tables.memberships, ∀ other ∈
      config.state.registry.tables.memberships, one.reviewerId = other.reviewerId → one = other :=
    fun one first other second same => lineage.sound.accounts.unique first second same
  refine ⟨⟨?_, registration_granted sound reached, ?_, ?_, ?_⟩, ?_⟩
  · intro pid reviewerId created
    obtain ⟨email, made⟩ := created
    have justified := accounts_justified reached pid
    obtain ⟨_, count, _, _, _, _, grant⟩ := created_granted justified made
    exact ⟨count, grant.counted, fun other counted =>
      counted_once justified counted grant.counted⟩
  · intro row stored above ancestor chain
    -- Every granter on the chain is a platform admin, from the last one back to the first.
    generalize target : row.reviewerId = reviewerId at chain
    induction chain generalizing row with
    | single first =>
        rcases registeredBy_cases sound reached first with admin | ⟨_, _, atMost⟩
        · exact admin
        · exact absurd (atMost row stored target).1 above
    | tail _ last ih =>
        rcases registeredBy_cases sound reached last with admin | ⟨_, _, atMost⟩
        · exact ih _ admin (by simp) rfl
        · exact absurd (atMost row stored target).1 above
  · intro admin organizationId held reviewerId chain
    induction chain with
    | single first =>
        rcases registeredBy_cases sound reached first with platform | ⟨other, also, atMost⟩
        · have clash := single _ held _ platform rfl
          simp at clash
        · have same := single _ held _ also rfl
          simp only [MembershipRow.mk.injEq, Option.some.injEq, true_and] at same
          exact same ▸ atMost
    | tail _ last ih =>
        -- A plain member registers nobody, so the chain has one link.
        rcases registeredBy_cases sound reached last with platform | ⟨other, also, _⟩
        · exact absurd (ih _ platform rfl).1 (by simp)
        · exact absurd (ih _ also rfl).1 (by simp)
  · intro row stored
    have shape := lineage.sound.accounts.shaped row stored
    cases role : row.role <;> cases place : row.organizationId <;>
      simp [membershipShape, role, place] at shape ⊢
  · intro later further
    have minded := reach_after (recorded lower) (freeRules lower) _ _ _
      (fun pid => run_accounts server (jobs pid)) config (accounts_told reached) later further
    refine reach_holds _ _ _ (fun world : World =>
      config.state.registry.tables.memberships <+: world.registry.tables.memberships)
      (List.prefix_refl _) ?_ later minded
    intro pid call env world legal grown
    exact grown.trans (accounts_grow (runCall_effect lower env world.registry call legal.2.plain)).2

end Reached

end Runs

namespace Scenario

/-- Tokens and sign-ins name the reviewer or the email that they end in. -/
def server : Server :=
  { verify := fun token =>
      if token = "admin" then some ⟨5, 0⟩
      else if token = "owner" then some ⟨6, 0⟩
      else if token = "stranger" then some ⟨7, 0⟩ else none
    sha256 := fun text => text.toList.map fun letter => UInt8.ofNat letter.toNat
    unicode := .ascii
    verifyIdToken := fun token => if token = "google" then some "ada@example.org" else none }

def lower : PostgresReviewerRepository.Lower := fun text => text

def signedIn (token : String) : List (String × Bytes) :=
  [("authorization", Text.asciiBytes ("Bearer " ++ token))]

def env : Env :=
  { now := 0, fault := false, tie := fun _ => 0, fieldTie := fun _ => 0, revoked := false
    withinLimit := true }

def organizationId : OrganizationId := ⟨20⟩

def empty : Registry :=
  { tables := Db.empty, reviewers := [], managementTokenHashes := [], alertCreatedAt := fun _ => 0 }

/-- A platform admin, and an organization with its admin. -/
def staffed : Registry :=
  { empty with
    tables := { Db.empty with
      organizations := [PostgresOrganizationRepository.newRow organizationId]
      memberships := [{ reviewerId := 5, role := .platformAdmin, organizationId := none },
        { reviewerId := 6, role := .orgAdmin, organizationId := some organizationId }] }
    reviewers := [{ id := 5, email := "ada@example.org" }, { id := 6, email := "ben@example.org" }] }

theorem staffed_sound : Sound staffed where
  accounts :=
    { ids := by decide
      once := by decide
      shaped := by decide
      known := by decide }
  owners :=
    { ids := by decide
      once := by
        intro one first other second consumerId owns
        simp only [staffed, List.mem_singleton] at first
        rw [first] at owns
        cases owns
      known := by
        intro row member consumerId owns
        simp only [staffed, List.mem_singleton] at member
        rw [member] at owns
        cases owns }
  subscriptionIds := by decide
  tokens := by decide

theorem empty_sound : Sound empty where
  accounts := { ids := by decide, once := by decide, shaped := by decide, known := by decide }
  owners :=
    { ids := by decide
      once := fun _ member => by cases member
      known := fun _ member => by cases member }
  subscriptionIds := by decide
  tokens := by decide

def registration (caller : Nat) (headers : List (String × Bytes)) (email : String)
    (role : Option Role) (organizationId : Option OrganizationId) : Job :=
  { fresh := Supply.of caller, headers, request := .register { email, role, organizationId } }

def runs : Nat → Nat → List (Label Env) := stretch fun _ => env

def memberJobs : Nat → Job := fun _ =>
  registration 0 (signedIn "owner") "cora@example.org" (some .member) (some organizationId)

theorem registration_never_escalates_member : ∃ config : Pool Scenario.lower,
    Holds config.state.registry (Supply.of 0 0) .member (some organizationId) ∧
      NoEscalation server memberJobs config := by
  have run : (play (server.pool memberJobs) (fun _ _ => true) (runs 0 7)
      (initially (World.initial staffed) : Pool Scenario.lower)).any (fun config =>
        decide ((⟨Supply.of 0 0, .member, some organizationId⟩ : MembershipRow) ∈
          config.state.registry.tables.memberships)) = true := by decide +kernel
  obtain ⟨config, arrived, stored⟩ := play_freely _ _ _ _ run
  exact ⟨config, of_decide_eq_true stored,
    (registration_never_escalates server memberJobs staffed staffed_sound config arrived).1⟩

end Scenario

end SafeCameroon.Access
