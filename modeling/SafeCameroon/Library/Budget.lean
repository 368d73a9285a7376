import SafeCameroon.Library.Trace

namespace SafeCameroon.Process

variable {I : Interface} {ε η α β : Type} (kind : I.Op → Prop) [DecidablePred kind]

def spent (trace : List (Exchange I)) : Nat := trace.countP fun exchange => kind exchange.op

@[simp] theorem spent_nil : spent kind ([] : List (Exchange I)) = 0 := rfl

theorem spent_cons (exchange : Exchange I) (trace : List (Exchange I)) :
    spent kind (exchange :: trace) = spent kind trace + if kind exchange.op then 1 else 0 := by
  simp [spent, List.countP_cons]

theorem spent_one (trace : List (Exchange I)) (once : spent kind trace ≤ 1)
    (first second : Exchange I) (left : first ∈ trace) (right : second ∈ trace)
    (firstKind : kind first.op) (secondKind : kind second.op) : first = second := by
  induction trace with
  | nil => exact absurd left List.not_mem_nil
  | cons head tail ih =>
      rw [spent_cons] at once
      have none : ∀ exchange ∈ tail, kind exchange.op → 0 < spent kind tail := fun exchange member is =>
        List.countP_pos_iff.mpr ⟨exchange, member, by simpa using is⟩
      rcases List.mem_cons.mp left with rfl | inFirst
      · rcases List.mem_cons.mp right with rfl | inSecond
        · rfl
        · have positive := none second inSecond secondKind
          simp only [firstKind, if_true] at once
          omega
      · have positive := none first inFirst firstKind
        rcases List.mem_cons.mp right with rfl | inSecond
        · simp only [secondKind, if_true] at once
          omega
        · exact ih (by omega) inFirst inSecond

namespace Proc

def AtMost : Proc I ε α → Nat → Prop
  | .done _, _ => True
  | .fail _, _ => True
  | .call op next, limit =>
      (kind op → 0 < limit) ∧
        ∀ answer, (next answer).AtMost (limit - if kind op then 1 else 0)

variable {kind}

theorem atMost_mono (program : Proc I ε α) (limit more : Nat) (wider : limit ≤ more)
    (bounded : program.AtMost kind limit) : program.AtMost kind more := by
  induction program generalizing limit more with
  | done value => trivial
  | fail error => trivial
  | call op next ih =>
      refine ⟨fun is => Nat.lt_of_lt_of_le (bounded.1 is) wider, fun answer => ?_⟩
      apply ih answer _ _ _ (bounded.2 answer)
      omega

theorem atMost_uses (program : Proc I ε α) (limit : Nat) (uses : program.Uses fun op => ¬ kind op) :
    program.AtMost kind limit := by
  induction program with
  | done value => trivial
  | fail error => trivial
  | call op next ih =>
      refine ⟨fun is => absurd is uses.1, fun answer => ?_⟩
      simp only [uses.1, if_false, Nat.sub_zero]
      exact ih answer (uses.2 answer)

theorem atMost_bind (program : Proc I ε α) (rest : α → Proc I ε β) (first later : Nat)
    (bounded : program.AtMost kind first) (then_ : ∀ value, (rest value).AtMost kind later) :
    (program.bind rest).AtMost kind (first + later) := by
  induction program generalizing first with
  | done value => exact atMost_mono _ _ _ (Nat.le_add_left _ _) (then_ value)
  | fail error => trivial
  | call op next ih =>
      refine ⟨fun is => Nat.lt_of_lt_of_le (bounded.1 is) (Nat.le_add_right _ _), fun answer => ?_⟩
      have within := ih answer _ (bounded.2 answer)
      apply atMost_mono _ _ _ _ within
      by_cases is : kind op
      · have positive := bounded.1 is
        simp only [is, if_true]
        omega
      · simp only [is, if_false]
        omega

theorem atMost_perform (op : I.Op) (raise : I.Err → ε) :
    (perform op raise : Proc I ε (I.Res op)).AtMost kind 1 := by
  refine ⟨fun _ => Nat.one_pos, fun answer => ?_⟩
  cases answer <;> trivial

theorem atMost_mapError (program : Proc I ε α) (raise : ε → η) (limit : Nat)
    (bounded : program.AtMost kind limit) : (program.mapError raise).AtMost kind limit := by
  induction program generalizing limit with
  | done value => trivial
  | fail error => trivial
  | call op next ih => exact ⟨bounded.1, fun answer => ih answer _ (bounded.2 answer)⟩

theorem atMost_attempt (program : Proc I ε α) (limit : Nat) (bounded : program.AtMost kind limit) :
    (program.attempt (η := η)).AtMost kind limit := by
  induction program generalizing limit with
  | done value => trivial
  | fail error => trivial
  | call op next ih => exact ⟨bounded.1, fun answer => ih answer _ (bounded.2 answer)⟩

/-- What a program makes at most so often is proper only until it was made so often. -/
theorem honest_atMost (program : Proc I ε α) (limit total : Nat) (past : List (Exchange I))
    (bounded : program.AtMost kind limit) (within : spent kind past + limit ≤ total) :
    program.Honest (fun past op => kind op → spent kind past < total) (fun _ _ => True) past := by
  induction program generalizing limit past with
  | done value => trivial
  | fail error => trivial
  | call op next ih =>
      refine ⟨fun is => ?_, fun answer => ?_⟩
      · have positive := bounded.1 is
        omega
      · apply ih answer _ _ (bounded.2 answer)
        rw [spent_cons]
        by_cases is : kind op
        · have positive := bounded.1 is
          simp only [is, if_true]
          omega
        · simp only [is, if_false]
          omega

end Proc

theorem Justified.spent {total : Nat} {trace : List (Exchange I)}
    (justified : Justified (fun past op => kind op → spent kind past < total) trace) :
    spent kind trace ≤ total := by
  induction trace with
  | nil => exact Nat.zero_le _
  | cons exchange past ih =>
      have before := ih justified.2
      rw [spent_cons]
      by_cases is : kind exchange.op
      · have room := justified.1 is
        simp only [is, if_true]
        omega
      · simp only [is, if_false]
        omega

variable {M : Machine I}

theorem spent_reach (recorded : Recorded M) (rules : Rules M) (total : Nat)
    (program : Nat → Proc I ε α) (bounded : ∀ pid, (program pid).AtMost kind total)
    (start : Config M ε α) (waiting : ∀ pid, start.slots pid = .waiting)
    (blank : ∀ pid, recorded.trace pid start.state = []) (config : Config M ε α)
    (reached : Reach rules program start config) (pid : Nat) :
    spent kind (recorded.trace pid config.state) ≤ total := by
  refine Justified.spent kind (justified_reach recorded rules
    (fun _ past op => kind op → spent kind past < total) (fun _ _ _ => True) program ?_ start ?_ blank
    config reached pid)
  · intro other
    exact Proc.honest_atMost _ total total [] (bounded other) (by simp)
  · intro other
    simp only [Told, waiting, blank]

end SafeCameroon.Process
