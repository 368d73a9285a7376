import Mathlib.Logic.Function.Basic
import Mathlib.Logic.Relation

namespace SafeCameroon.Process

/-- The calls a program may make: every operation with the type of its answer, and the errors an
operation can answer with instead. -/
structure Interface where
  Op : Type
  Res : Op → Type
  Err : Type

/-- A program as the tree of its calls. Other programs may run between two calls. -/
inductive Proc (I : Interface) (ε α : Type) where
  | done (value : α)
  | fail (error : ε)
  | call (op : I.Op) (next : Except I.Err (I.Res op) → Proc I ε α)

namespace Proc

variable {I : Interface} {ε η α β : Type}

def bind : Proc I ε α → (α → Proc I ε β) → Proc I ε β
  | .done value, rest => rest value
  | .fail error, _ => .fail error
  | .call op next, rest => .call op fun answer => (next answer).bind rest

instance : Monad (Proc I ε) where
  pure := .done
  bind := Proc.bind

/-- One call whose error ends the program. -/
def perform (op : I.Op) (raise : I.Err → ε) : Proc I ε (I.Res op) :=
  .call op fun
    | .ok value => .done value
    | .error error => .fail (raise error)

def mapError (raise : ε → η) : Proc I ε α → Proc I η α
  | .done value => .done value
  | .fail error => .fail (raise error)
  | .call op next => .call op fun answer => (next answer).mapError raise

def attempt : Proc I ε α → Proc I η (Except ε α)
  | .done value => .done (.ok value)
  | .fail error => .done (.error error)
  | .call op next => .call op fun answer => (next answer).attempt

def embed {J : Interface} (send : I.Op → J.Op)
    (receive : ∀ op, Except J.Err (J.Res (send op)) → Except I.Err (I.Res op)) :
    Proc I ε α → Proc J ε α
  | .done value => .done value
  | .fail error => .fail error
  | .call op next => .call (send op) fun answer => (next (receive op answer)).embed send receive

theorem embed_bind {J : Interface} (send : I.Op → J.Op)
    (receive : ∀ op, Except J.Err (J.Res (send op)) → Except I.Err (I.Res op)) (program : Proc I ε α)
    (rest : α → Proc I ε β) :
    (program.bind rest).embed send receive =
      (program.embed send receive).bind fun value => (rest value).embed send receive := by
  induction program with
  | done value => rfl
  | fail error => rfl
  | call op next ih =>
      simp only [bind, embed, call.injEq, heq_eq_eq, true_and]
      funext answer
      exact ih (receive op answer)

/-- Runs the body on every element in order; the first error ends the loop. -/
def forEach (body : α → Proc I ε Unit) : List α → Proc I ε Unit
  | [] => .done ()
  | head :: tail => (body head).bind fun _ => forEach body tail

@[simp] theorem pure_def (value : α) : (pure value : Proc I ε α) = .done value := rfl

@[simp] theorem bind_def (program : Proc I ε α) (rest : α → Proc I ε β) :
    (program >>= rest) = program.bind rest := rfl

@[simp] theorem map_def (f : α → β) (program : Proc I ε α) :
    (f <$> program) = program.bind fun value => .done (f value) := rfl

theorem bind_assoc {γ : Type} (program : Proc I ε α) (middle : α → Proc I ε β)
    (rest : β → Proc I ε γ) :
    (program.bind middle).bind rest = program.bind fun value => (middle value).bind rest := by
  induction program with
  | done value => rfl
  | fail error => rfl
  | call op next ih => exact congrArg (Proc.call op) (funext ih)

def Uses (allowed : I.Op → Prop) : Proc I ε α → Prop
  | .done _ => True
  | .fail _ => True
  | .call op next => allowed op ∧ ∀ answer, (next answer).Uses allowed

theorem uses_mono {narrow wide : I.Op → Prop} (implies : ∀ op, narrow op → wide op)
    (program : Proc I ε α) (uses : program.Uses narrow) : program.Uses wide := by
  induction program with
  | done value => trivial
  | fail error => trivial
  | call op next ih => exact ⟨implies op uses.1, fun answer => ih answer (uses.2 answer)⟩

theorem uses_bind (allowed : I.Op → Prop) (program : Proc I ε α) (rest : α → Proc I ε β)
    (first : program.Uses allowed) (later : ∀ value, (rest value).Uses allowed) :
    (program.bind rest).Uses allowed := by
  induction program with
  | done value => exact later value
  | fail error => trivial
  | call op next ih => exact ⟨first.1, fun answer => ih answer (first.2 answer)⟩

theorem uses_perform (allowed : I.Op → Prop) (op : I.Op) (raise : I.Err → ε) (h : allowed op) :
    (perform op raise).Uses allowed := by
  refine ⟨h, fun answer => ?_⟩
  cases answer <;> trivial

theorem uses_embed {J : Interface} (send : I.Op → J.Op)
    (receive : ∀ op, Except J.Err (J.Res (send op)) → Except I.Err (I.Res op))
    (allowed : J.Op → Prop) (program : Proc I ε α)
    (h : program.Uses fun op => allowed (send op)) : (program.embed send receive).Uses allowed := by
  induction program with
  | done value => trivial
  | fail error => trivial
  | call op next ih => exact ⟨h.1, fun answer => ih _ (h.2 _)⟩

theorem uses_forEach (allowed : I.Op → Prop) (body : α → Proc I ε Unit) (elements : List α)
    (h : ∀ element ∈ elements, (body element).Uses allowed) :
    (forEach body elements).Uses allowed := by
  induction elements with
  | nil => trivial
  | cons head tail ih =>
      have first := h head List.mem_cons_self
      refine uses_bind allowed (body head) _ first fun _ => ih fun element member => ?_
      exact h element (List.mem_cons_of_mem head member)

theorem uses_mapError (allowed : I.Op → Prop) (raise : ε → η) (program : Proc I ε α)
    (uses : program.Uses allowed) : (program.mapError raise).Uses allowed := by
  induction program with
  | done value => trivial
  | fail error => trivial
  | call op next ih => exact ⟨uses.1, fun answer => ih answer (uses.2 answer)⟩

theorem uses_attempt (allowed : I.Op → Prop) (program : Proc I ε α) (uses : program.Uses allowed) :
    (program.attempt (η := η)).Uses allowed := by
  induction program with
  | done value => trivial
  | fail error => trivial
  | call op next ih => exact ⟨uses.1, fun answer => ih answer (uses.2 answer)⟩

end Proc

/-- What the calls do to the state the programs share. The environment of a call holds everything
the caller does not choose: the clock, a failure, the order of rows that compare equal. -/
structure Machine (I : Interface) where
  State : Type
  Env : Type
  execute : Nat → (op : I.Op) → Env → State → Except I.Err (I.Res op) × State

/-- Which calls and which halts a run may contain. -/
structure Rules {I : Interface} (M : Machine I) where
  mayCall : Nat → I.Op → M.Env → M.State → Prop
  mayHalt : Nat → I.Op → M.State → Prop

/-- A process that has not begun, one with its remaining program, and one that was dropped. -/
inductive Slot (I : Interface) (ε α : Type) where
  | waiting
  | active (rest : Proc I ε α)
  | gone

def Slot.running {I : Interface} {ε α : Type} : Slot I ε α → Bool
  | .active (.call _ _) => true
  | _ => false

def Slot.returned {I : Interface} {ε α : Type} : Slot I ε α → Option α
  | .active (.done value) => some value
  | _ => none

theorem Slot.returned_iff {I : Interface} {ε α : Type} {slot : Slot I ε α} {value : α} :
    slot.returned = some value ↔ slot = .active (.done value) := by
  unfold Slot.returned
  split
  · simp
  · rename_i other
    simpa using fun same => other value same

structure Config {I : Interface} (M : Machine I) (ε α : Type) where
  state : M.State
  slots : Nat → Slot I ε α

inductive Label (Env : Type) where
  | start (pid : Nat)
  | call (pid : Nat) (env : Env)
  | halt (pid : Nat)

def Label.pid {Env : Type} : Label Env → Nat
  | .start pid => pid
  | .call pid _ => pid
  | .halt pid => pid

variable {I : Interface} {M : Machine I} {ε α : Type}

def setSlot (slots : Nat → Slot I ε α) (pid : Nat) (slot : Slot I ε α) : Nat → Slot I ε α :=
  fun other => if other = pid then slot else slots other

@[simp] theorem setSlot_self (slots : Nat → Slot I ε α) (pid : Nat) (slot : Slot I ε α) :
    setSlot slots pid slot pid = slot := by simp [setSlot]

theorem setSlot_other (slots : Nat → Slot I ε α) (pid other : Nat) (slot : Slot I ε α)
    (h : other ≠ pid) : setSlot slots pid slot other = slots other := by simp [setSlot, h]

/-- One step of the pool: a process begins, makes its next call, or is dropped before it. -/
def step (program : Nat → Proc I ε α) (config : Config M ε α) :
    Label M.Env → Option (Config M ε α)
  | .start pid =>
      match config.slots pid with
      | .waiting => some { config with
          slots := setSlot config.slots pid (.active (program pid)) }
      | _ => none
  | .call pid env =>
      match config.slots pid with
      | .active (.call op next) =>
          let (answer, state) := M.execute pid op env config.state
          some { state, slots := setSlot config.slots pid (.active (next answer)) }
      | _ => none
  | .halt pid =>
      match config.slots pid with
      | .active (.call _ _) => some { config with slots := setSlot config.slots pid .gone }
      | _ => none

def Rules.free (M : Machine I) : Rules M where
  mayCall := fun _ _ _ _ => True
  mayHalt := fun _ _ _ => True

def Rules.legal (rules : Rules M) (config : Config M ε α) : Label M.Env → Prop
  | .start _ => True
  | .call pid env =>
      ∀ op next, config.slots pid = .active (.call op next) →
        rules.mayCall pid op env config.state
  | .halt pid =>
      ∀ op next, config.slots pid = .active (.call op next) → rules.mayHalt pid op config.state

theorem Rules.free_legal (config : Config M ε α) (label : Label M.Env) :
    (Rules.free M).legal config label := by
  cases label with
  | start pid => trivial
  | call pid env => exact fun _ _ _ => trivial
  | halt pid => exact fun _ _ _ => trivial

def initially (state : M.State) : Config M ε α := ⟨state, fun _ => .waiting⟩

inductive Reach (rules : Rules M) (program : Nat → Proc I ε α) (start : Config M ε α) :
    Config M ε α → Prop where
  | start : Reach rules program start start
  | step {config next : Config M ε α} (label : Label M.Env)
      (reached : Reach rules program start config) (legal : rules.legal config label)
      (stepped : step program config label = some next) : Reach rules program start next

theorem Reach.trans (rules : Rules M) (program : Nat → Proc I ε α)
    (start middle final : Config M ε α) (first : Reach rules program start middle)
    (later : Reach rules program middle final) : Reach rules program start final := by
  induction later with
  | start => exact first
  | step label _ legal stepped ih => exact .step label ih legal stepped

theorem step_cases (program : Nat → Proc I ε α) (config next : Config M ε α) (label : Label M.Env)
    (stepped : step program config label = some next) :
    (∃ pid, label = .start pid ∧ config.slots pid = .waiting ∧
      next = { config with slots := setSlot config.slots pid (.active (program pid)) }) ∨
    (∃ pid env op rest, label = .call pid env ∧ config.slots pid = .active (.call op rest) ∧
      next = ⟨(M.execute pid op env config.state).2,
        setSlot config.slots pid (.active (rest (M.execute pid op env config.state).1))⟩) ∨
    (∃ pid op rest, label = .halt pid ∧ config.slots pid = .active (.call op rest) ∧
      next = { config with slots := setSlot config.slots pid .gone }) := by
  cases label with
  | start pid =>
      cases slot : config.slots pid with
      | waiting =>
          simp only [step, slot, Option.some.injEq] at stepped
          exact Or.inl ⟨pid, rfl, slot, stepped.symm⟩
      | active rest => simp [step, slot] at stepped
      | gone => simp [step, slot] at stepped
  | call pid env =>
      cases slot : config.slots pid with
      | waiting => simp [step, slot] at stepped
      | gone => simp [step, slot] at stepped
      | active rest =>
          cases rest with
          | done value => simp [step, slot] at stepped
          | fail error => simp [step, slot] at stepped
          | call op rest =>
              simp only [step, slot, Option.some.injEq] at stepped
              exact Or.inr (Or.inl ⟨pid, env, op, rest, rfl, slot, stepped.symm⟩)
  | halt pid =>
      cases slot : config.slots pid with
      | waiting => simp [step, slot] at stepped
      | gone => simp [step, slot] at stepped
      | active rest =>
          cases rest with
          | done value => simp [step, slot] at stepped
          | fail error => simp [step, slot] at stepped
          | call op rest =>
              simp only [step, slot, Option.some.injEq] at stepped
              exact Or.inr (Or.inr ⟨pid, op, rest, rfl, slot, stepped.symm⟩)

theorem step_slots_other (program : Nat → Proc I ε α) (config next : Config M ε α)
    (label : Label M.Env) (stepped : step program config label = some next) (other : Nat)
    (differs : other ≠ label.pid) : next.slots other = config.slots other := by
  rcases step_cases program config next label stepped with
    ⟨pid, rfl, _, rfl⟩ | ⟨pid, env, op, rest, rfl, _, rfl⟩ | ⟨pid, op, rest, rfl, _, rfl⟩
  · exact setSlot_other config.slots pid other _ differs
  · exact setSlot_other config.slots pid other _ differs
  · exact setSlot_other config.slots pid other _ differs

theorem step_begun (program : Nat → Proc I ε α) (config next : Config M ε α)
    (label : Label M.Env) (stepped : step program config label = some next) (pid : Nat)
    (begun : config.slots pid ≠ .waiting) : next.slots pid ≠ .waiting := by
  by_cases mine : pid = label.pid
  · subst mine
    rcases step_cases program config next label stepped with
      ⟨pid, rfl, _, rfl⟩ | ⟨pid, env, op, rest, rfl, _, rfl⟩ | ⟨pid, op, rest, rfl, _, rfl⟩
    · simp [Label.pid]
    · simp [Label.pid]
    · simp [Label.pid]
  · rw [step_slots_other program config next label stepped pid mine]
    exact begun

theorem reach_strengthen (rules stronger : Rules M) (program : Nat → Proc I ε α)
    (start : Config M ε α)
    (holds : ∀ config label, Reach rules program start config → rules.legal config label →
      stronger.legal config label)
    (config : Config M ε α) (reached : Reach rules program start config) :
    Reach stronger program start config := by
  induction reached with
  | start => exact .start
  | step label reached legal stepped ih =>
      exact .step label ih (holds _ label reached legal) stepped

theorem reach_holds (rules : Rules M) (program : Nat → Proc I ε α) (start : Config M ε α)
    (holds : M.State → Prop) (first : holds start.state)
    (next : ∀ pid op env state, rules.mayCall pid op env state → holds state →
      holds (M.execute pid op env state).2)
    (config : Config M ε α) (reached : Reach rules program start config) : holds config.state := by
  induction reached with
  | start => exact first
  | step label _ legal stepped ih =>
      rcases step_cases program _ _ label stepped with
        ⟨pid, rfl, _, rfl⟩ | ⟨pid, env, op, rest, rfl, slot, rfl⟩ | ⟨pid, op, rest, rfl, _, rfl⟩
      · exact ih
      · exact next pid op env _ (legal op rest slot) ih
      · exact ih

def play (program : Nat → Proc I ε α) (check : Config M ε α → Label M.Env → Bool) :
    List (Label M.Env) → Config M ε α → Option (Config M ε α)
  | [], config => some config
  | label :: labels, config =>
      if check config label then (step program config label).bind (play program check labels)
      else none

theorem play_reach (rules : Rules M) (program : Nat → Proc I ε α) (start : Config M ε α)
    (check : Config M ε α → Label M.Env → Bool)
    (sound : ∀ config label, check config label = true → rules.legal config label)
    (labels : List (Label M.Env)) (config final : Config M ε α)
    (reached : Reach rules program start config)
    (played : play program check labels config = some final) : Reach rules program start final := by
  induction labels generalizing config with
  | nil =>
      have same : config = final := by simpa [play] using played
      exact same ▸ reached
  | cons label labels ih =>
      by_cases checked : check config label = true
      · simp only [play, checked, if_true] at played
        obtain ⟨middle, stepped, rest⟩ := Option.bind_eq_some_iff.mp played
        exact ih middle (.step label reached (sound config label checked) stepped) rest
      · simp [play, checked] at played

theorem play_slots_other (program : Nat → Proc I ε α)
    (check : Config M ε α → Label M.Env → Bool) (labels : List (Label M.Env))
    (config final : Config M ε α) (played : play program check labels config = some final)
    (other : Nat) (absent : other ∉ labels.map Label.pid) :
    final.slots other = config.slots other := by
  induction labels generalizing config with
  | nil =>
      have same : config = final := by simpa [play] using played
      rw [same]
  | cons label labels ih =>
      rw [List.map_cons, List.mem_cons, not_or] at absent
      by_cases checked : check config label = true
      · simp only [play, checked, if_true] at played
        obtain ⟨middle, stepped, rest⟩ := Option.bind_eq_some_iff.mp played
        rw [ih middle rest absent.2]
        exact step_slots_other program config middle label stepped other absent.1
      · simp [play, checked] at played

def stretch {Env : Type} (env : Nat → Env) (pid calls : Nat) : List (Label Env) :=
  .start pid :: (List.range calls).map fun index => .call pid (env index)

/-- What a schedule leads to is reached; a process past those of the schedule is where it was. -/
theorem play_reaches {rules : Rules M} (program : Nat → Proc I ε α) (start : Config M ε α)
    (check : Config M ε α → Label M.Env → Bool)
    (sound : ∀ config label, check config label = true → rules.legal config label)
    (labels : List (Label M.Env)) (holds : Config M ε α → Bool)
    (run : (play program check labels start).any holds = true) :
    ∃ config, Reach rules program start config ∧ holds config = true ∧
      ∀ pid, (∀ label ∈ labels, label.pid < pid) → config.slots pid = start.slots pid := by
  obtain ⟨config, played, held⟩ := (Option.any_eq_true _ _).mp run
  refine ⟨config, play_reach rules _ _ check sound labels _ config .start played, held, ?_⟩
  intro pid past
  apply play_slots_other _ check labels _ config played
  intro member
  obtain ⟨label, inLabels, same⟩ := List.mem_map.mp member
  exact absurd same (Nat.ne_of_lt (past label inLabels))

/-- None of the first processes is at work. -/
def Config.idleBelow (bound : Nat) (config : Config M ε α) : Bool :=
  (List.range bound).all fun pid => !(config.slots pid).running

theorem idle_played {bound : Nat} {labels : List (Label M.Env)} {config : Config M ε α}
    (idle : config.idleBelow bound = true) (early : ∀ label ∈ labels, label.pid < bound)
    (waiting : ∀ pid, (∀ label ∈ labels, label.pid < pid) → config.slots pid = .waiting)
    (pid : Nat) : (config.slots pid).running = false := by
  by_cases first : pid < bound
  · have stopped := List.all_eq_true.mp idle pid (List.mem_range.mpr first)
    simpa using stopped
  · have late : ∀ label ∈ labels, label.pid < pid := by
      intro label member
      have below := early label member
      omega
    rw [waiting pid late]
    rfl

theorem play_freely (program : Nat → Proc I ε α) (start : Config M ε α)
    (labels : List (Label M.Env)) (holds : Config M ε α → Bool)
    (run : (play program (fun _ _ => true) labels start).any holds = true) :
    ∃ config, Reach (Rules.free M) program start config ∧ holds config = true := by
  obtain ⟨config, reached, held, _⟩ := play_reaches program start _
    (fun config label _ => Rules.free_legal config label) labels holds run
  exact ⟨config, reached, held⟩

/-- Runs one program alone, its calls meeting the given environments in turn, until it ends or the
environments do. -/
def alone (M : Machine I) (pid : Nat) : List M.Env → Proc I ε α → M.State →
    Option (Except ε α) × M.State
  | _, .done value, state => (some (.ok value), state)
  | _, .fail error, state => (some (.error error), state)
  | [], .call _ _, state => (none, state)
  | env :: envs, .call op next, state =>
      alone M pid envs (next (M.execute pid op env state).1) (M.execute pid op env state).2

@[simp] theorem alone_done (M : Machine I) (pid : Nat) (envs : List M.Env) (value : α)
    (state : M.State) : alone M pid envs (.done value : Proc I ε α) state =
      (some (.ok value), state) := by
  cases envs <;> rfl

@[simp] theorem alone_fail (M : Machine I) (pid : Nat) (envs : List M.Env) (error : ε)
    (state : M.State) : alone M pid envs (.fail error : Proc I ε α) state =
      (some (.error error), state) := by
  cases envs <;> rfl

theorem alone_holds (M : Machine I) (pid : Nat) (allowed : I.Op → Prop) (holds : M.State → Prop)
    (next : ∀ op env state, allowed op → holds state → holds (M.execute pid op env state).2)
    (program : Proc I ε α) (uses : program.Uses allowed) (envs : List M.Env) (state : M.State)
    (first : holds state) : holds (alone M pid envs program state).2 := by
  induction program generalizing state envs with
  | done value =>
      rw [alone_done]
      exact first
  | fail error =>
      rw [alone_fail]
      exact first
  | call op rest ih =>
      cases envs with
      | nil => exact first
      | cons env envs => exact ih _ (uses.2 _) envs _ (next op env state uses.1 first)

theorem alone_map (M : Machine I) (pid : Nat) (envs : List M.Env) (program : Proc I ε α)
    {β : Type} (f : α → β) (state : M.State) :
    alone M pid envs (program.bind fun value => .done (f value)) state =
      ((alone M pid envs program state).1.map (Except.map f), (alone M pid envs program state).2) := by
  induction program generalizing envs state with
  | done value => simp [Proc.bind, Except.map]
  | fail error => simp [Proc.bind, Except.map]
  | call op next ih =>
      cases envs with
      | nil => rfl
      | cons env envs => exact ih _ envs _

/-- Wherever the program, alone, stops or is stopped, the postcondition holds. -/
def Proc.Ensures (M : Machine I) (pid : Nat) (post : Option (Except ε α) → M.State → Prop) :
    Proc I ε α → M.State → Prop
  | .done value, state => post (some (.ok value)) state
  | .fail error, state => post (some (.error error)) state
  | .call op next, state => post none state ∧ ∀ env,
      (next (M.execute pid op env state).1).Ensures M pid post (M.execute pid op env state).2

theorem ensures_alone (M : Machine I) (pid : Nat) (post : Option (Except ε α) → M.State → Prop)
    (program : Proc I ε α) (state : M.State) (ensures : program.Ensures M pid post state)
    (envs : List M.Env) :
    post (alone M pid envs program state).1 (alone M pid envs program state).2 := by
  induction program generalizing state envs with
  | done value =>
      rw [alone_done]
      exact ensures
  | fail error =>
      rw [alone_fail]
      exact ensures
  | call op next ih =>
      cases envs with
      | nil => exact ensures.1
      | cons env envs => exact ih _ _ (ensures.2 env) envs

theorem ensures_bind {β : Type} (M : Machine I) (pid : Nat)
    (middle : Option (Except ε α) → M.State → Prop) (post : Option (Except ε β) → M.State → Prop)
    (program : Proc I ε α) (rest : α → Proc I ε β) (state : M.State)
    (first : program.Ensures M pid middle state)
    (stopped : ∀ state, middle none state → post none state)
    (raised : ∀ state error, middle (some (.error error)) state → post (some (.error error)) state)
    (later : ∀ state value, middle (some (.ok value)) state →
      (rest value).Ensures M pid post state) :
    (program.bind rest).Ensures M pid post state := by
  induction program generalizing state with
  | done value => exact later state value first
  | fail error => exact raised state error first
  | call op next ih => exact ⟨stopped state first.1, fun env => ih _ _ (first.2 env)⟩

theorem ensures_perform {β : Type} (M : Machine I) (pid : Nat)
    (post : Option (Except ε β) → M.State → Prop) (op : I.Op) (raise : I.Err → ε)
    (rest : I.Res op → Proc I ε β) (state : M.State) (stopped : post none state)
    (succeeds : ∀ env value, (M.execute pid op env state).1 = .ok value →
      (rest value).Ensures M pid post (M.execute pid op env state).2)
    (fails : ∀ env error, (M.execute pid op env state).1 = .error error →
      post (some (.error (raise error))) (M.execute pid op env state).2) :
    ((Proc.perform op raise).bind rest).Ensures M pid post state := by
  refine ⟨stopped, fun env => ?_⟩
  cases answer : (M.execute pid op env state).1 with
  | ok value => exact succeeds env value answer
  | error error => exact fails env error answer

theorem alone_perform_cons {β : Type} (M : Machine I) (pid : Nat) (env : M.Env) (envs : List M.Env)
    (op : I.Op) (raise : I.Err → ε) (rest : I.Res op → Proc I ε β) (state : M.State) :
    alone M pid (env :: envs) ((Proc.perform op raise).bind rest) state =
      match (M.execute pid op env state).1 with
      | .ok value => alone M pid envs (rest value) (M.execute pid op env state).2
      | .error error => (some (.error (raise error)), (M.execute pid op env state).2) := by
  cases answer : (M.execute pid op env state).1 with
  | ok value => simp [Proc.perform, Proc.bind, alone, answer]
  | error error => simp [Proc.perform, Proc.bind, alone, answer]

end SafeCameroon.Process
