import SafeCameroon.Postgres.RateLimits

namespace SafeCameroon.RateLimits

open Table Process Incidents

section Conversation

@[reducible] def recording (scope : RateLimitScope) (sourceKey : String) (read : Nat) : Call :=
  .recordRequest scope.asDatabaseValue sourceKey (FixedWindow.start scope.window (read / second))

def Proper (job : Job) (past : List (Exchange limiterInterface)) (call : Call) : Prop :=
  (past = [] ∧ call = .now) ∨ ∃ read : Nat, past = [⟨.now, .ok read⟩] ∧ match job with
    | .check scope sourceKey => call = recording scope sourceKey read
    | .cleanup => call = .deleteWindowsBefore (((read / second : Nat) : Int) - retention)

def Ended (job : Job) (past : List (Exchange limiterInterface)) (result : Except Failure Outcome) :
    Prop :=
  match job with
  | .check scope sourceKey =>
      (∃ (read count : Nat), past = [⟨recording scope sourceKey read, .ok count⟩,
          ⟨.now, .ok read⟩] ∧ result = .ok (.checked (decide (count ≤ scope.limit)))) ∨
        ∃ failure, result = .error failure ∧ ∀ call count, ⟨call, .ok count⟩ ∈ past → call = .now
  | .cleanup => ∀ withinLimit, result ≠ .ok (.checked withinLimit)

theorem check_honest (scope : RateLimitScope) (sourceKey : String) :
    (program (.check scope sourceKey)).Honest (Proper (.check scope sourceKey))
      (Ended (.check scope sourceKey)) [] := by
  refine ⟨Or.inl ⟨rfl, rfl⟩, fun clocked => ?_⟩
  cases clocked with
  | error failure =>
      refine Or.inr ⟨failure, rfl, ?_⟩
      intro call count member
      cases List.mem_singleton.mp member
  | ok read =>
      refine ⟨Or.inr ⟨read, rfl, rfl⟩, fun counted => ?_⟩
      cases counted with
      | error failure =>
          refine Or.inr ⟨failure, rfl, ?_⟩
          intro call count member
          cases member with
          | tail _ member =>
              cases List.mem_singleton.mp member
              rfl
      | ok count => exact Or.inl ⟨read, count, rfl, rfl⟩

theorem cleanup_honest : (program .cleanup).Honest (Proper .cleanup) (Ended .cleanup) [] := by
  refine ⟨Or.inl ⟨rfl, rfl⟩, fun clocked => ?_⟩
  cases clocked with
  | error failure =>
      intro withinLimit same
      cases same
  | ok read =>
      refine ⟨Or.inr ⟨read, rfl, rfl⟩, fun removed => ?_⟩
      cases removed with
      | error failure =>
          intro withinLimit same
          cases same
      | ok rows =>
          intro withinLimit same
          cases same

end Conversation

section Rows

def counted (key : String × String × Nat) (windows : List WindowRow) : Option Nat :=
  (lookup WindowRow.key key windows).map (·.requestCount)

theorem recordRequest_ok {scope sourceKey : String} {windowStart count : Nat}
    {windows after : List WindowRow}
    (recorded : recordRequest scope sourceKey windowStart windows = .ok (count, after)) :
    count = (counted (scope, sourceKey, windowStart) windows).getD 0 + 1 ∧
      ∀ key, counted key after =
        if key = (scope, sourceKey, windowStart) then some count else counted key windows := by
  unfold recordRequest at recorded
  split at recorded
  · cases recorded
  · split at recorded
    · rename_i absent
      cases recorded
      constructor
      · simp [counted, absent]
      · intro key
        by_cases same : key = (scope, sourceKey, windowStart)
        · simp only [same, if_true, counted, lookup, List.find?_append] at absent ⊢
          rw [absent]
          simp [WindowRow.key]
        · have other : (scope, sourceKey, windowStart) ≠ key := Ne.symm same
          simp [counted, lookup, List.find?_append, WindowRow.key, same, other]
    · rename_i row present
      split at recorded
      · cases recorded
        constructor
        · simp [counted, present]
        · intro key
          have changed := lookup_updateWhere WindowRow.key (scope, sourceKey, windowStart) key
            (fun other => { other with requestCount := other.requestCount + 1 }) windows
            (fun _ => rfl)
          rw [counted, changed]
          by_cases same : key = (scope, sourceKey, windowStart)
          · simp [same, present]
          · simp [same, counted]
      · cases recorded

theorem counted_deleteWindowsBefore (cutoff : Int) (windows : List WindowRow)
    (key : String × String × Nat) :
    counted key (deleteWindowsBefore cutoff windows).2 =
      if (key.2.2 : Int) < cutoff then none else counted key windows := by
  have whole : ∀ row : WindowRow, row.key = key →
      expired cutoff row = decide ((key.2.2 : Int) < cutoff) := by
    intro row same
    rw [← same]
    rfl
  simp only [counted, lookup, deleteWindowsBefore, List.find?_filter]
  split
  · rename_i early
    rw [Option.map_eq_none_iff, List.find?_eq_none]
    intro row _ chosen
    simp only [decide_eq_true_eq] at chosen
    simp [whole row chosen.2, early] at chosen
  · rename_i late
    congr 2
    funext row
    by_cases same : row.key = key
    · simp [whole row same, late, same]
    · simp [same]

end Rows

section Counting

def commitOf (key : String × String × Nat) : Process.Entry limiterInterface → Option (Nat × Nat)
  | ⟨pid, .recordRequest scope sourceKey windowStart, .ok count, _⟩ =>
      if (scope, sourceKey, windowStart) = key then some (pid, count) else none
  | _ => none

/-- The requests that were recorded in the window, in the order of their commits. -/
def commits (key : String × String × Nat) (history : List (Process.Entry limiterInterface)) :
    List (Nat × Nat) :=
  history.reverse.filterMap (commitOf key)

@[simp] theorem commits_cons (key : String × String × Nat) (entry : Process.Entry limiterInterface)
    (history : List (Process.Entry limiterInterface)) :
    commits key (entry :: history) = commits key history ++ (commitOf key entry).toList := by
  rw [commits, List.reverse_cons, List.filterMap_append, commits]
  cases found : commitOf key entry <;> simp [found]

theorem mem_commits (key : String × String × Nat) (history : List (Process.Entry limiterInterface))
    (pid count : Nat) :
    (pid, count) ∈ commits key history ↔
      ∃ time, ⟨pid, .recordRequest key.1 key.2.1 key.2.2, .ok count, time⟩ ∈ history := by
  simp only [commits, List.mem_filterMap, List.mem_reverse]
  constructor
  · intro ⟨entry, member, found⟩
    unfold commitOf at found
    split at found
    · split at found
      · rename_i same
        cases same
        cases found
        exact ⟨_, member⟩
      · cases found
    · cases found
  · intro ⟨time, member⟩
    exact ⟨_, member, by simp [commitOf]⟩

/-- Every window counts the requests recorded in it, and only windows that are long over lose their
row. -/
structure Counts (world : World) : Prop where
  numbered : ∀ key, (commits key world.history).map (·.2) =
    List.range' 1 (commits key world.history).length
  rows : ∀ key, counted key world.store = some (commits key world.history).length ∨
    (counted key world.store = none ∧
      (commits key world.history = [] ∨ key.2.2 + retention < world.clock / second))

theorem counts_initial (clock : Nat) : Counts (Journal.initial [] clock) where
  numbered := fun _ => rfl
  rows := fun _ => Or.inr ⟨rfl, Or.inl rfl⟩

theorem Counts.untouched {world : World} (counts : Counts world)
    (entry : Process.Entry limiterInterface)
    (records : ∀ key, commitOf key entry = none) (clock : Nat) (forward : world.clock ≤ clock) :
    Counts { store := world.store, clock, history := entry :: world.history } := by
  have same : ∀ key, commits key (entry :: world.history) = commits key world.history := by
    intro key
    simp [records]
  have later : world.clock / second ≤ clock / second := Nat.div_le_div_right forward
  constructor
  · intro key
    rw [same]
    exact counts.numbered key
  · intro key
    rw [same]
    cases counts.rows key with
    | inl present => exact Or.inl present
    | inr absent =>
        refine Or.inr ⟨absent.1, ?_⟩
        cases absent.2 with
        | inl fresh => exact Or.inl fresh
        | inr ended => exact Or.inr (Nat.lt_of_lt_of_le ended later)

theorem Counts.record {world : World} (counts : Counts world) (pid : Nat)
    {scope sourceKey : String} {windowStart count : Nat} {after : List WindowRow} (clock : Nat)
    (recorded : recordRequest scope sourceKey windowStart world.store = .ok (count, after))
    (forward : world.clock ≤ clock) (young : clock / second ≤ windowStart + retention) :
    Counts { store := after, clock, history :=
      ⟨pid, .recordRequest scope sourceKey windowStart, .ok count, clock⟩ :: world.history } := by
  obtain ⟨counting, rows⟩ := recordRequest_ok recorded
  have later : world.clock / second ≤ clock / second := Nat.div_le_div_right forward
  have next : count = (commits (scope, sourceKey, windowStart) world.history).length + 1 := by
    cases counts.rows (scope, sourceKey, windowStart) with
    | inl present =>
        rw [counting, present]
        rfl
    | inr absent =>
        cases absent.2 with
        | inl fresh =>
            rw [counting, absent.1, fresh]
            rfl
        | inr ended =>
            dsimp only at ended
            omega
  have one : ∀ key, commitOf key (⟨pid, .recordRequest scope sourceKey windowStart, .ok count,
      clock⟩ : Process.Entry limiterInterface) =
      if key = (scope, sourceKey, windowStart) then some (pid, count) else none := by
    intro key
    simp [commitOf, eq_comm]
  constructor
  · intro key
    rw [commits_cons, one]
    by_cases same : key = (scope, sourceKey, windowStart)
    · subst same
      simp only [if_true, Option.toList_some, List.map_append, List.map_singleton,
        List.length_append, List.length_singleton, counts.numbered, List.range'_concat]
      rw [next]
      simp [Nat.add_comm]
    · simpa [same] using counts.numbered key
  · intro key
    rw [commits_cons, one, rows]
    by_cases same : key = (scope, sourceKey, windowStart)
    · subst same
      left
      simp [next]
    · simp only [same, if_false, Option.toList_none, List.append_nil]
      cases counts.rows key with
      | inl present => exact Or.inl present
      | inr absent =>
          refine Or.inr ⟨absent.1, ?_⟩
          cases absent.2 with
          | inl fresh => exact Or.inl fresh
          | inr ended => exact Or.inr (Nat.lt_of_lt_of_le ended later)

theorem Counts.delete {world : World} (counts : Counts world) (cutoff : Int)
    (old : cutoff ≤ ((world.clock / second : Nat) : Int) - retention)
    (entry : Process.Entry limiterInterface) (records : ∀ key, commitOf key entry = none) (clock : Nat)
    (forward : world.clock ≤ clock) :
    Counts { store := (deleteWindowsBefore cutoff world.store).2, clock
             history := entry :: world.history } := by
  have kept := counts.untouched entry records clock forward
  have later : world.clock / second ≤ clock / second := Nat.div_le_div_right forward
  refine ⟨kept.numbered, fun key => ?_⟩
  rw [counted_deleteWindowsBefore]
  by_cases early : (key.2.2 : Int) < cutoff
  · rw [if_pos early]
    refine Or.inr ⟨rfl, Or.inr ?_⟩
    dsimp only
    omega
  · rw [if_neg early]
    exact kept.rows key

end Counting

section Runs

def Clocked (world : World) : Prop :=
  ∀ pid read time, ⟨pid, .now, .ok read, time⟩ ∈ world.history → read = time

structure Sound (world : World) : Prop where
  timely : Journal.Timely world
  clocked : Clocked world
  counts : Counts world

theorem sound_initial (clock : Nat) : Sound (Journal.initial [] clock) where
  timely := Journal.timely_initial _ _
  clocked := fun pid read time member => by cases member
  counts := counts_initial clock

theorem Sound.read_le {world : World} (sound : Sound world) {pid read : Nat}
    (asked : ⟨.now, .ok read⟩ ∈ Journal.trace pid world) : read ≤ world.clock := by
  obtain ⟨time, member⟩ := (Journal.mem_trace pid world .now (.ok read)).mp asked
  rw [sound.clocked pid read time member]
  exact sound.timely.past _ member

theorem clocked_execute (pid : Nat) (call : Call) (occasion : Occasion) (world : World)
    (clocked : Clocked world) : Clocked (Journal.execute runCall pid call occasion world).2 := by
  intro other read time member
  cases List.mem_cons.mp member with
  | inl latest =>
      cases latest
      rfl
  | inr earlier => exact clocked other read time earlier

theorem young_of_current (scope : RateLimitScope) (now read : Nat) (fresh : current now read) :
    now / second ≤ FixedWindow.start scope.window (read / second) + retention := by
  have within := FixedWindow.lt_start_add scope.window (read / second) scope.window_pos
  have short := scope.window_le
  have seconds : now / second ≤ read / second + 23 * 60 * 60 := by
    calc now / second ≤ (read + 23 * 60 * 60 * second) / second :=
          Nat.div_le_div_right (Nat.le_of_lt fresh)
      _ = read / second + 23 * 60 * 60 := Nat.add_mul_div_right _ _ (by decide)
  rw [retention]
  omega

theorem counts_execute (pid : Nat) (job : Job) (call : Call) (occasion : Occasion) (world : World)
    (allowed : limiterRules.mayCall pid call occasion world)
    (proper : Proper job (Journal.trace pid world) call) (sound : Sound world) :
    Counts (Journal.execute runCall pid call occasion world).2 := by
  have forward := allowed.1
  cases proper with
  | inl first =>
      rw [first.2]
      exact sound.counts.untouched _ (fun _ => rfl) _ forward
  | inr second =>
      obtain ⟨read, past, follows⟩ := second
      have asked : ⟨.now, .ok read⟩ ∈ Journal.trace pid world := by
        rw [past]
        exact List.mem_singleton_self _
      cases job with
      | check scope sourceKey =>
          dsimp only at follows
          subst follows
          have young := young_of_current scope occasion.now read
            (allowed.2 _ _ _ rfl read asked)
          simp only [Journal.execute, runCall]
          split
          · exact sound.counts.untouched _ (fun _ => rfl) _ forward
          · split
            · exact sound.counts.untouched _ (fun _ => rfl) _ forward
            · rename_i counting
              exact sound.counts.record pid occasion.now counting forward young
      | cleanup =>
          dsimp only at follows
          subst follows
          have behind : read / second ≤ world.clock / second :=
            Nat.div_le_div_right (sound.read_le asked)
          simp only [Journal.execute, runCall]
          split
          · exact sound.counts.untouched _ (fun _ => rfl) _ forward
          · exact sound.counts.delete _ (by omega) _ (fun _ => rfl) _ forward

variable (jobs : Nat → Job) (clock : Nat)

theorem job_honest (job : Job) :
    (program job).Honest (Proper job) (Ended job) [] := by
  cases job with
  | check scope sourceKey => exact check_honest scope sourceKey
  | cleanup => exact cleanup_honest

theorem told_initially (pid : Nat) : Told (Journal.recorded runCall)
    (fun pid => Proper (jobs pid)) (fun pid => Ended (jobs pid))
    (initially (Journal.initial [] clock) : Pool) pid := rfl

variable {jobs clock} {config : Pool}

theorem sound_reach (reached : Reaches jobs clock config) : Sound config.state := by
  have minded := reach_after (Journal.recorded runCall) limiterRules (fun pid => Proper (jobs pid))
    (fun pid => Ended (jobs pid)) _ (fun pid => job_honest (jobs pid)) _
    (told_initially jobs clock) config reached
  refine reach_holds _ _ _ Sound (sound_initial clock) ?_ config minded
  intro pid call occasion world allowed sound
  exact {
    timely := Journal.timely_execute runCall pid call occasion world allowed.1.1 sound.timely
    clocked := clocked_execute pid call occasion world sound.clocked
    counts := counts_execute pid (jobs pid) call occasion world allowed.1 allowed.2 sound }

theorem unrecorded_of_proper {job : Job} {past : List (Exchange limiterInterface)} {call : Call}
    (proper : Proper job past call) (scope sourceKey : String) (windowStart count : Nat) :
    ⟨.recordRequest scope sourceKey windowStart, .ok count⟩ ∉ past := by
  intro made
  cases proper with
  | inl first =>
      rw [first.1] at made
      cases made
  | inr second =>
      obtain ⟨read, past, _⟩ := second
      rw [past] at made
      cases List.mem_singleton.mp made

theorem check_of_record (reached : Reaches jobs clock config) {pid count : Nat}
    {scope sourceKey : String} {windowStart : Nat}
    (made : ⟨.recordRequest scope sourceKey windowStart, .ok count⟩ ∈
      Journal.trace pid config.state) :
    ∃ limited source, jobs pid = .check limited source := by
  have justified := justified_reach (Journal.recorded runCall) limiterRules
    (fun pid => Proper (jobs pid)) (fun pid => Ended (jobs pid)) _
    (fun pid => job_honest (jobs pid)) _ (told_initially jobs clock) (fun _ => rfl) config reached
    pid
  obtain ⟨_, past, _, proper⟩ := justified.mem made
  cases job : jobs pid with
  | check limited source => exact ⟨limited, source, rfl⟩
  | cleanup =>
      rw [job] at proper
      cases proper with
      | inl first => cases first.2
      | inr second =>
          obtain ⟨_, _, follows⟩ := second
          cases follows

theorem verdict_of_record (reached : Reaches jobs clock config) {pid count : Nat}
    {scope sourceKey : String} {windowStart : Nat}
    (made : ⟨.recordRequest scope sourceKey windowStart, .ok count⟩ ∈
      Journal.trace pid config.state) :
    ∃ limited source, ∃ read : Nat, jobs pid = .check limited source ∧
      Call.recordRequest scope sourceKey windowStart = recording limited source read ∧
      ⟨.now, .ok read⟩ ∈ Journal.trace pid config.state ∧
      config.slots pid = .active (.done (.checked (decide (count ≤ limited.limit)))) := by
  obtain ⟨limited, source, job⟩ := check_of_record reached made
  have told := told_reach (Journal.recorded runCall) limiterRules (fun pid => Proper (jobs pid))
    (fun pid => Ended (jobs pid)) _ (fun pid => job_honest (jobs pid)) _
    (told_initially jobs clock) config reached pid
  cases slot : config.slots pid with
  | waiting =>
      simp only [Told, slot] at told
      rw [show Journal.trace pid config.state = [] from told] at made
      cases made
  | gone =>
      obtain ⟨call, proper⟩ := gone_proper (Journal.recorded runCall) limiterRules
        (fun pid => Proper (jobs pid)) (fun pid => Ended (jobs pid)) _
        (fun pid => job_honest (jobs pid)) _ (told_initially jobs clock)
        (fun _ gone => by cases gone) config reached pid slot
      exact absurd made (unrecorded_of_proper proper _ _ _ _)
  | active rest =>
      simp only [Told, slot] at told
      cases rest with
      | call call next => exact absurd made (unrecorded_of_proper told.1 _ _ _ _)
      | fail failure =>
          have ended : Ended (jobs pid) (Journal.trace pid config.state) (.error failure) := told
          rw [job] at ended
          cases ended with
          | inl verdict =>
              obtain ⟨_, _, _, same⟩ := verdict
              cases same
          | inr failed =>
              obtain ⟨_, _, only⟩ := failed
              cases only _ _ made
      | done outcome =>
          have ended : Ended (jobs pid) (Journal.trace pid config.state) (.ok outcome) := told
          rw [job] at ended
          cases ended with
          | inr failed =>
              obtain ⟨_, same, _⟩ := failed
              cases same
          | inl verdict =>
              obtain ⟨read, answered, past, same⟩ := verdict
              rw [past] at made ⊢
              cases same
              cases made with
              | head => exact ⟨limited, _, read, job, rfl, by simp, rfl⟩
              | tail _ earlier => cases List.mem_singleton.mp earlier

theorem record_of_verdict (reached : Reaches jobs clock config) {pid : Nat} {withinLimit : Bool}
    (slot : config.slots pid = .active (.done (.checked withinLimit))) :
    ∃ scope source, ∃ read count : Nat, jobs pid = .check scope source ∧
      Journal.trace pid config.state =
        [⟨recording scope source read, .ok count⟩, ⟨.now, .ok read⟩] := by
  have told := told_reach (Journal.recorded runCall) limiterRules (fun pid => Proper (jobs pid))
    (fun pid => Ended (jobs pid)) _ (fun pid => job_honest (jobs pid)) _
    (told_initially jobs clock) config reached pid
  simp only [Told, slot] at told
  have ended : Ended (jobs pid) (Journal.trace pid config.state) (.ok (.checked withinLimit)) :=
    told
  cases job : jobs pid with
  | cleanup =>
      rw [job] at ended
      exact absurd rfl (ended withinLimit)
  | check scope source =>
      rw [job] at ended
      cases ended with
      | inl verdict =>
          obtain ⟨read, count, past, _⟩ := verdict
          exact ⟨scope, source, read, count, rfl, past⟩
      | inr failed =>
          obtain ⟨_, same, _⟩ := failed
          cases same

end Runs

section Exactness

def callers (scope : RateLimitScope) (sourceKey : String) (window : Nat) (world : World) : List Nat :=
  (commits (scope.asDatabaseValue, sourceKey, window) world.history).map (·.1)

structure Exact (jobs : Nat → Job) (config : Pool) : Prop where
  /-- Of the calls of a window the first ones up to the limit are admitted, the later ones refused. -/
  verdicts : ∀ scope sourceKey window rank pid,
    (callers scope sourceKey window config.state)[rank]? = some pid →
      config.slots pid = .active (.done (.checked (decide (rank < scope.limit))))
  /-- Every verdict is that of a call of the window in which the clock was read. -/
  ranked : ∀ pid withinLimit, config.slots pid = .active (.done (.checked withinLimit)) →
    ∃ scope sourceKey, ∃ read : Nat, jobs pid = .check scope sourceKey ∧
      ⟨.now, .ok read⟩ ∈ Journal.trace pid config.state ∧
      pid ∈ callers scope sourceKey (FixedWindow.start scope.window (read / second)) config.state
  /-- A cleanup keeps every row that a call whose time is current can count a request in. -/
  kept : ∀ pid cutoff next occasion,
    config.slots pid = .active (.call (.deleteWindowsBefore cutoff) next) →
    limiterRules.mayCall pid (.deleteWindowsBefore cutoff) occasion config.state →
    ∀ (scope : RateLimitScope) sourceKey read, current occasion.now read →
    ∀ row ∈ config.state.store, row.key = (scope.asDatabaseValue, sourceKey,
      FixedWindow.start scope.window (read / second)) →
    row ∈ (Journal.execute runCall pid (Call.deleteWindowsBefore cutoff) occasion
      config.state).2.store
  /-- Of the calls that read the clock in a span as long as a window, twice the limit is admitted. -/
  spans : ∀ scope sourceKey first (calls : Finset Nat),
    (∀ pid ∈ calls, jobs pid = .check scope sourceKey ∧
      config.slots pid = .active (.done (.checked true)) ∧
      ∃ read, ⟨.now, .ok read⟩ ∈ Journal.trace pid config.state ∧ first ≤ read ∧
        read ≤ first + scope.window * second) →
    calls.card ≤ 2 * scope.limit

variable {jobs : Nat → Job} {clock : Nat} {config : Pool}

theorem made_of_rank (reached : Reaches jobs clock config) {scope : RateLimitScope}
    {sourceKey : String} {window rank pid : Nat}
    (ranked : (callers scope sourceKey window config.state)[rank]? = some pid) :
    ⟨.recordRequest scope.asDatabaseValue sourceKey window, .ok (rank + 1)⟩ ∈
      Journal.trace pid config.state := by
  have numbered := (sound_reach reached).counts.numbered (scope.asDatabaseValue, sourceKey, window)
  rw [callers, List.getElem?_map, Option.map_eq_some_iff] at ranked
  obtain ⟨commit, found, mine⟩ := ranked
  have place := congrArg (fun counts => counts[rank]?) numbered
  have short := (List.getElem?_eq_some_iff.mp found).1
  simp only [List.getElem?_map, found, Option.map_some, List.getElem?_range' short, Nat.one_mul,
    Option.some.injEq] at place
  have answered : (pid, rank + 1) ∈ commits (scope.asDatabaseValue, sourceKey, window)
      config.state.history := by
    rw [← mine, Nat.add_comm, ← place]
    exact List.mem_of_getElem? found
  obtain ⟨time, member⟩ := (mem_commits _ _ _ _).mp answered
  exact (Journal.mem_trace pid config.state _ _).mpr ⟨time, member⟩

theorem verdict_of_rank (reached : Reaches jobs clock config) {scope : RateLimitScope}
    {sourceKey : String} {window rank pid : Nat}
    (ranked : (callers scope sourceKey window config.state)[rank]? = some pid) :
    config.slots pid = .active (.done (.checked (decide (rank < scope.limit)))) := by
  obtain ⟨limited, _, _, _, same, _, slot⟩ :=
    verdict_of_record reached (made_of_rank reached ranked)
  have named : scope.asDatabaseValue = limited.asDatabaseValue := by
    injection same
  rw [RateLimitScope.asDatabaseValue_injective named]
  exact slot

theorem rank_of_verdict (reached : Reaches jobs clock config) {pid : Nat} {withinLimit : Bool}
    (slot : config.slots pid = .active (.done (.checked withinLimit))) :
    ∃ scope sourceKey, ∃ read count : Nat, jobs pid = .check scope sourceKey ∧
      Journal.trace pid config.state =
        [⟨recording scope sourceKey read, .ok count⟩, ⟨.now, .ok read⟩] ∧
      pid ∈ callers scope sourceKey (FixedWindow.start scope.window (read / second))
        config.state := by
  obtain ⟨scope, sourceKey, read, count, job, past⟩ := record_of_verdict reached slot
  have made : ⟨recording scope sourceKey read, .ok count⟩ ∈ Journal.trace pid config.state := by
    rw [past]
    exact List.mem_cons_self
  obtain ⟨time, member⟩ := (Journal.mem_trace pid config.state _ _).mp made
  refine ⟨scope, sourceKey, read, count, job, past, ?_⟩
  exact List.mem_map.mpr ⟨(pid, count), (mem_commits _ _ _ _).mpr ⟨time, member⟩, rfl⟩

theorem early_of_admitted (reached : Reaches jobs clock config) {scope : RateLimitScope}
    {sourceKey : String} {window pid : Nat}
    (among : pid ∈ callers scope sourceKey window config.state)
    (admitted : config.slots pid = .active (.done (.checked true))) :
    pid ∈ (callers scope sourceKey window config.state).take scope.limit := by
  obtain ⟨rank, found⟩ := List.mem_iff_getElem?.mp among
  have verdict := verdict_of_rank reached found
  rw [admitted] at verdict
  have early : rank < scope.limit := by
    simpa using verdict.symm
  apply List.mem_of_getElem? (i := rank)
  rw [List.getElem?_take_of_lt early]
  exact found

theorem row_kept (reached : Reaches jobs clock config) {pid : Nat} {cutoff : Int}
    {next : Except Failure Nat → Limiter Outcome} {occasion : Occasion}
    (slot : config.slots pid = .active (.call (.deleteWindowsBefore cutoff) next))
    (allowed : limiterRules.mayCall pid (.deleteWindowsBefore cutoff) occasion config.state)
    (scope : RateLimitScope) (sourceKey : String) (read : Nat) (fresh : current occasion.now read)
    (row : WindowRow) (member : row ∈ config.state.store)
    (mine : row.key = (scope.asDatabaseValue, sourceKey,
      FixedWindow.start scope.window (read / second))) :
    row ∈ (Journal.execute runCall pid (Call.deleteWindowsBefore cutoff) occasion
      config.state).2.store := by
  have told := told_reach (Journal.recorded runCall) limiterRules (fun pid => Proper (jobs pid))
    (fun pid => Ended (jobs pid)) _ (fun pid => job_honest (jobs pid)) _
    (told_initially jobs clock) config reached pid
  simp only [Told, slot] at told
  have young := young_of_current scope occasion.now read fresh
  have started : row.windowStart = FixedWindow.start scope.window (read / second) :=
    congrArg (fun key => key.2.2) mine
  cases told.1 with
  | inl first => cases first.2
  | inr second =>
      obtain ⟨asked, past, follows⟩ := second
      cases job : jobs pid with
      | check scope sourceKey =>
          rw [job] at follows
          cases follows
      | cleanup =>
          rw [job] at follows
          dsimp only at follows
          injection follows with same
          have asking : ⟨.now, .ok asked⟩ ∈ Journal.trace pid config.state := by
            rw [show Journal.trace pid config.state = _ from past]
            exact List.mem_singleton_self _
          have behind : asked / second ≤ occasion.now / second :=
            Nat.div_le_div_right (Nat.le_trans ((sound_reach reached).read_le asking) allowed.1)
          have live : expired cutoff row = false := by
            rw [expired, decide_eq_false_iff_not, started, same]
            omega
          simp only [Journal.execute, runCall]
          split
          · exact member
          · exact List.mem_filter.mpr ⟨member, by simp [live]⟩

/-- In every run of checks and cleanups, however they interleave, the limiter is exact. -/
theorem rate_limiter_exact (jobs : Nat → Job) (clock : Nat) (config : Pool)
    (reached : Reaches jobs clock config) : Exact jobs config where
  verdicts := fun scope sourceKey window rank pid ranked => verdict_of_rank reached ranked
  ranked := by
    intro pid withinLimit slot
    obtain ⟨scope, sourceKey, read, count, job, past, among⟩ := rank_of_verdict reached slot
    refine ⟨scope, sourceKey, read, job, ?_, among⟩
    rw [past]
    simp
  kept := fun pid cutoff next occasion slot allowed scope sourceKey read fresh row member mine =>
    row_kept reached slot allowed scope sourceKey read fresh row member mine
  spans := by
    intro scope sourceKey first calls within
    apply FixedWindow.card_le_two scope.limit
      (callers scope sourceKey (FixedWindow.start scope.window (first / second)) config.state)
      (callers scope sourceKey (FixedWindow.start scope.window (first / second) + scope.window)
        config.state)
    intro pid member
    obtain ⟨job, admitted, read, asked, low, high⟩ := within pid member
    obtain ⟨limited, source, time, count, mine, past, among⟩ := rank_of_verdict reached admitted
    rw [job] at mine
    cases mine
    have same : read = time := by
      rw [past] at asked
      cases asked with
      | tail _ asked =>
          cases List.mem_singleton.mp asked
          rfl
    subst same
    have early := early_of_admitted reached among admitted
    have later : first / second ≤ read / second := Nat.div_le_div_right low
    have near : read / second ≤ first / second + scope.window := by
      calc read / second ≤ (first + scope.window * second) / second := Nat.div_le_div_right high
        _ = first / second + scope.window := Nat.add_mul_div_right _ _ (by decide)
    have windows := FixedWindow.start_within scope.window (first / second) (read / second)
      scope.window_pos later near
    cases windows with
    | inl same =>
        rw [same] at early
        exact Or.inl early
    | inr next =>
        rw [next] at early
        exact Or.inr early

end Exactness

namespace Scenario

/-- Six logins under one email address, and a cleanup. -/
def crowd (pid : Nat) : Job :=
  if pid < 6 then .check .reviewerLoginAttempt "ada@example.org" else .cleanup

def occasion : Occasion := { now := 1000 * second, fault := false }

/-- Everyone reads the clock before anyone is counted. -/
def rush : List (Label Occasion) :=
  (List.range 7).map .start ++ (List.range 7).map (.call · occasion) ++
    (List.range 7).map (.call · occasion)

def firstDay (config : Pool) : Label Occasion → Bool
  | .call _ occasion => decide (config.state.clock ≤ occasion.now) &&
      decide (occasion.now < 23 * 60 * 60 * second)
  | _ => true

theorem firstDay_legal (config : Pool) (label : Label Occasion)
    (early : firstDay config label = true) : limiterRules.legal config label := by
  cases label with
  | start pid => trivial
  | halt pid => exact fun _ _ _ => trivial
  | call pid occasion =>
      intro op next slot
      simp only [firstDay, Bool.and_eq_true, decide_eq_true_eq] at early
      refine ⟨early.1, ?_⟩
      intro scope sourceKey windowStart same read asked
      exact Nat.lt_of_lt_of_le early.2 (Nat.le_add_left _ _)

def lastRefused (config : Pool) : Bool :=
  match config.slots 5 with
  | .active (.done (.checked withinLimit)) => !withinLimit
  | _ => false

theorem rate_limiter_exact_crowd :
    ∃ config : Pool, lastRefused config = true ∧ Exact crowd config := by
  have refused : ((play (fun pid => program (crowd pid)) firstDay rush
      (initially (Journal.initial [] 0) : Pool)).any lastRefused) = true := by
    decide +kernel
  obtain ⟨config, arrived, last, _⟩ := play_reaches _ _ _ firstDay_legal _ _ refused
  exact ⟨config, last, rate_limiter_exact crowd 0 config arrived⟩

end Scenario

end SafeCameroon.RateLimits
