import SafeCameroon.Library.Trace

namespace SafeCameroon.Process

def second : Nat := 1000000

/-- When a call is made, and whether what it calls on fails it. -/
structure Occasion where
  now : Nat
  fault : Bool

/-- One finished call: who made it, what it answered, and when. -/
structure Entry (I : Interface) where
  pid : Nat
  op : I.Op
  answer : Except I.Err (I.Res op)
  time : Nat

/-- A store with its clock and the calls made so far, the latest first. -/
structure Journal (I : Interface) (σ : Type) where
  store : σ
  clock : Nat
  history : List (Entry I)

namespace Journal

variable {I : Interface} {σ ε α : Type}

def initial (store : σ) (clock : Nat) : Journal I σ := { store, clock, history := [] }

/-- What the process has called so far. -/
def trace (pid : Nat) (journal : Journal I σ) : List (Exchange I) :=
  (journal.history.filter fun entry => entry.pid = pid).map fun entry => ⟨entry.op, entry.answer⟩

theorem mem_trace (pid : Nat) (journal : Journal I σ) (op : I.Op)
    (answer : Except I.Err (I.Res op)) :
    ⟨op, answer⟩ ∈ trace pid journal ↔ ∃ time, ⟨pid, op, answer, time⟩ ∈ journal.history := by
  simp only [trace, List.mem_map, List.mem_filter, decide_eq_true_eq]
  constructor
  · intro ⟨entry, ⟨member, mine⟩, same⟩
    cases entry with
    | mk caller call result time =>
        cases mine
        cases same
        exact ⟨time, member⟩
  · intro ⟨time, member⟩
    exact ⟨⟨pid, op, answer, time⟩, ⟨member, rfl⟩, rfl⟩

def Lawful (law : Entry I → List (Entry I) → Prop) : List (Entry I) → Prop
  | [] => True
  | entry :: before => law entry before ∧ Lawful law before

theorem Lawful.earlier {law : Entry I → List (Entry I) → Prop} {later before : List (Entry I)}
    (lawful : Lawful law (later ++ before)) : Lawful law before := by
  induction later with
  | nil => exact lawful
  | cons latest later ih => exact ih lawful.2

theorem Lawful.split {law : Entry I → List (Entry I) → Prop} {entry : Entry I}
    {later before : List (Entry I)} (lawful : Lawful law (later ++ entry :: before)) :
    law entry before := lawful.earlier.1

theorem Lawful.mem {law : Entry I → List (Entry I) → Prop} {entry : Entry I}
    {history : List (Entry I)} (lawful : Lawful law history) (made : entry ∈ history) :
    ∃ later before, history = later ++ entry :: before ∧ law entry before := by
  obtain ⟨later, before, same⟩ := List.append_of_mem made
  rw [same] at lawful
  exact ⟨later, before, same, lawful.split⟩

/-- What one call contributed, with its caller and its time. -/
structure Contribution (κ : Type) where
  pid : Nat
  time : Nat
  value : κ

section Contributions

variable {κ : Type} (part : (op : I.Op) → Except I.Err (I.Res op) → List κ)

def contributions : List (Entry I) → List (Contribution κ)
  | [] => []
  | entry :: earlier => contributions earlier ++
      (part entry.op entry.answer).map fun value => ⟨entry.pid, entry.time, value⟩

def contributed (past : List (Exchange I)) : List κ :=
  past.flatMap fun exchange => part exchange.op exchange.answer

theorem mem_contributions (contribution : Contribution κ) (history : List (Entry I)) :
    contribution ∈ contributions part history ↔ ∃ entry ∈ history, entry.pid = contribution.pid ∧
      entry.time = contribution.time ∧ contribution.value ∈ part entry.op entry.answer := by
  induction history with
  | nil => simp [contributions]
  | cons entry earlier ih =>
      simp only [contributions, List.mem_append, ih, List.mem_map, List.mem_cons, exists_eq_or_imp]
      have latest : (∃ value ∈ part entry.op entry.answer,
          (⟨entry.pid, entry.time, value⟩ : Contribution κ) = contribution) ↔
          entry.pid = contribution.pid ∧ entry.time = contribution.time ∧
            contribution.value ∈ part entry.op entry.answer := by
        constructor
        · intro found
          obtain ⟨value, member, rfl⟩ := found
          exact ⟨rfl, rfl, member⟩
        · intro found
          obtain ⟨caller, time, member⟩ := found
          exact ⟨contribution.value, member, by rw [caller, time]⟩
      rw [latest]
      exact or_comm

theorem mem_contributed (pid : Nat) (journal : Journal I σ) (value : κ) :
    value ∈ contributed part (trace pid journal) ↔
      ∃ time, ⟨pid, time, value⟩ ∈ contributions part journal.history := by
  simp only [contributed, trace, List.mem_flatMap, List.mem_map, List.mem_filter, decide_eq_true_eq,
    mem_contributions]
  constructor
  · intro found
    obtain ⟨exchange, ⟨entry, ⟨member, mine⟩, rfl⟩, within⟩ := found
    exact ⟨entry.time, entry, member, mine, rfl, within⟩
  · intro found
    obtain ⟨time, entry, member, mine, _, within⟩ := found
    exact ⟨_, ⟨entry, ⟨member, mine⟩, rfl⟩, within⟩

theorem count_contributions (pid : Nat) (journal : Journal I σ) :
    ((contributions part journal.history).map (·.pid)).count pid =
      (contributed part (trace pid journal)).length := by
  obtain ⟨store, clock, history⟩ := journal
  induction history with
  | nil => rfl
  | cons entry earlier ih =>
      have latest : (((part entry.op entry.answer).map fun value =>
          (⟨entry.pid, entry.time, value⟩ : Contribution κ)).map (·.pid)).count pid =
            if entry.pid = pid then (part entry.op entry.answer).length else 0 := by
        rw [List.map_map, Function.comp_def, List.map_const', List.count_replicate]
        simp
      rw [contributions, List.map_append, List.count_append, ih, latest]
      by_cases mine : entry.pid = pid
      · simp only [contributed, trace, List.filter_cons, mine, decide_true, if_true, List.map_cons,
          List.flatMap_cons, List.length_append]
        omega
      · simp only [contributed, trace, List.filter_cons, mine, decide_false, if_false,
          Bool.false_eq_true, Nat.add_zero]

theorem contributions_nodup (journal : Journal I σ)
    (once : ∀ pid, (contributed part (trace pid journal)).length ≤ 1) :
    ((contributions part journal.history).map (·.pid)).Nodup := by
  rw [List.nodup_iff_count]
  intro pid
  rw [count_contributions]
  exact once pid

end Contributions

section Machine

variable (run : Occasion → (op : I.Op) → σ → Except I.Err (I.Res op) × σ)

def execute (pid : Nat) (op : I.Op) (occasion : Occasion) (journal : Journal I σ) :
    Except I.Err (I.Res op) × Journal I σ :=
  ((run occasion op journal.store).1,
    { store := (run occasion op journal.store).2
      clock := occasion.now
      history := ⟨pid, op, (run occasion op journal.store).1, occasion.now⟩ :: journal.history })

/-- The machine that runs calls on the store and keeps what they answered. -/
@[reducible] def machine : Machine I where
  State := Journal I σ
  Env := Occasion
  execute := execute run

def recorded : Recorded (machine run) where
  trace := trace
  own := fun pid op occasion journal => by simp [trace, execute]
  other := fun pid other op occasion journal differs => by
    simp [trace, execute, Ne.symm differs]

/-- The calls are in the order of their times, none of which lies ahead. -/
structure Timely (journal : Journal I σ) : Prop where
  past : ∀ entry ∈ journal.history, entry.time ≤ journal.clock
  ordered : journal.history.Pairwise fun later earlier => earlier.time ≤ later.time

theorem timely_initial (store : σ) (clock : Nat) :
    Timely (initial store clock : Journal I σ) where
  past := fun entry member => by cases member
  ordered := List.Pairwise.nil

theorem timely_execute (pid : Nat) (op : I.Op) (occasion : Occasion) (journal : Journal I σ)
    (forward : journal.clock ≤ occasion.now) (timely : Timely journal) :
    Timely (execute run pid op occasion journal).2 := by
  have behind : ∀ entry ∈ journal.history, entry.time ≤ occasion.now :=
    fun entry member => Nat.le_trans (timely.past entry member) forward
  constructor
  · intro entry member
    cases List.mem_cons.mp member with
    | inl latest =>
        rw [latest]
        exact Nat.le_refl _
    | inr earlier => exact behind entry earlier
  · exact List.Pairwise.cons behind timely.ordered

section Honest

variable {run} {rules : Rules (machine (σ := σ) run)} {proper : Nat → List (Exchange I) → I.Op → Prop}
  {post : Nat → List (Exchange I) → Except ε α → Prop} {program : Nat → Proc I ε α}
  (honest : ∀ pid, (program pid).Honest (proper pid) (post pid) []) {store : σ} {clock : Nat}
  {config : Config (machine run) ε α}
  (reached : Reach rules program (initially (initial store clock)) config)

include honest reached

theorem told (pid : Nat) : Told (recorded run) proper post config pid :=
  told_reach (recorded run) rules proper post program honest (initially (initial store clock))
    (fun _ => rfl) config reached pid

theorem justified (pid : Nat) : Justified (proper pid) (trace pid config.state) :=
  justified_reach (recorded run) rules proper post program honest
    (initially (initial store clock)) (fun _ => rfl) (fun _ => rfl) config reached pid

theorem minded : Reach (rules.after (recorded run) proper) program
    (initially (initial store clock)) config :=
  reach_after (recorded run) rules proper post program honest (initially (initial store clock))
    (fun _ => rfl) config reached

theorem dropped (pid : Nat) (gone : config.slots pid = .gone) :
    ∃ op, proper pid (trace pid config.state) op :=
  gone_proper (recorded run) rules proper post program honest (initially (initial store clock))
    (fun _ => rfl) (fun _ gone => by cases gone) config reached pid gone

end Honest

end Machine

end Journal

end SafeCameroon.Process
