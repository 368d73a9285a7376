import SafeCameroon.Library.Process

namespace SafeCameroon.Process

variable {I : Interface} {ε η α β : Type}

/-- A finished call and what it answered. -/
structure Exchange (I : Interface) where
  op : I.Op
  answer : Except I.Err (I.Res op)

namespace Proc

def Honest (proper : List (Exchange I) → I.Op → Prop)
    (post : List (Exchange I) → Except ε α → Prop) : Proc I ε α → List (Exchange I) → Prop
  | .done value, past => post past (.ok value)
  | .fail error, past => post past (.error error)
  | .call op next, past =>
      proper past op ∧ ∀ answer, (next answer).Honest proper post (⟨op, answer⟩ :: past)

variable {proper : List (Exchange I) → I.Op → Prop}

theorem honest_post (weak strong : List (Exchange I) → Except ε α → Prop)
    (implies : ∀ past result, strong past result → weak past result) (program : Proc I ε α)
    (past : List (Exchange I)) (honest : program.Honest proper strong past) :
    program.Honest proper weak past := by
  induction program generalizing past with
  | done value => exact implies past _ honest
  | fail error => exact implies past _ honest
  | call op next ih => exact ⟨honest.1, fun answer => ih answer _ (honest.2 answer)⟩

theorem honest_bind (middle : List (Exchange I) → Except ε α → Prop)
    (post : List (Exchange I) → Except ε β → Prop) (program : Proc I ε α) (rest : α → Proc I ε β)
    (past : List (Exchange I)) (first : program.Honest proper middle past)
    (later : ∀ past value, middle past (.ok value) → (rest value).Honest proper post past)
    (raised : ∀ past error, middle past (.error error) → post past (.error error)) :
    (program.bind rest).Honest proper post past := by
  induction program generalizing past with
  | done value => exact later past value first
  | fail error => exact raised past error first
  | call op next ih => exact ⟨first.1, fun answer => ih answer _ (first.2 answer)⟩

theorem honest_perform (post : List (Exchange I) → Except ε β → Prop) (op : I.Op)
    (raise : I.Err → ε) (rest : I.Res op → Proc I ε β) (past : List (Exchange I))
    (allowed : proper past op)
    (succeeds : ∀ value, (rest value).Honest proper post (⟨op, .ok value⟩ :: past))
    (fails : ∀ error, post (⟨op, .error error⟩ :: past) (.error (raise error))) :
    ((perform op raise).bind rest).Honest proper post past := by
  refine ⟨allowed, fun answer => ?_⟩
  cases answer with
  | ok value => exact succeeds value
  | error error => exact fails error

theorem honest_mapError (post : List (Exchange I) → Except η α → Prop) (raise : ε → η)
    (program : Proc I ε α) (past : List (Exchange I))
    (honest : program.Honest proper (fun past result => post past (result.mapError raise)) past) :
    (program.mapError raise).Honest proper post past := by
  induction program generalizing past with
  | done value => exact honest
  | fail error => exact honest
  | call op next ih => exact ⟨honest.1, fun answer => ih answer _ (honest.2 answer)⟩

theorem honest_attempt (post : List (Exchange I) → Except η (Except ε α) → Prop)
    (program : Proc I ε α) (past : List (Exchange I))
    (honest : program.Honest proper (fun past result => post past (.ok result)) past) :
    (program.attempt (η := η)).Honest proper post past := by
  induction program generalizing past with
  | done value => exact honest
  | fail error => exact honest
  | call op next ih => exact ⟨honest.1, fun answer => ih answer _ (honest.2 answer)⟩

theorem honest_allow {weaker : List (Exchange I) → I.Op → Prop}
    (post : List (Exchange I) → Except ε α → Prop)
    (implies : ∀ past op, proper past op → weaker past op) (program : Proc I ε α)
    (past : List (Exchange I)) (honest : program.Honest proper post past) :
    program.Honest weaker post past := by
  induction program generalizing past with
  | done value => exact honest
  | fail error => exact honest
  | call op next ih => exact ⟨implies past op honest.1, fun answer => ih answer _ (honest.2 answer)⟩

theorem honest_and {other : List (Exchange I) → I.Op → Prop}
    (post also : List (Exchange I) → Except ε α → Prop) (program : Proc I ε α)
    (past : List (Exchange I)) (honest : program.Honest proper post past)
    (besides : program.Honest other also past) :
    program.Honest (fun past op => proper past op ∧ other past op)
      (fun past result => post past result ∧ also past result) past := by
  induction program generalizing past with
  | done value => exact ⟨honest, besides⟩
  | fail error => exact ⟨honest, besides⟩
  | call op next ih =>
      exact ⟨⟨honest.1, besides.1⟩, fun answer => ih answer _ (honest.2 answer) (besides.2 answer)⟩

theorem honest_any (all : ∀ past op, proper past op) (program : Proc I ε α)
    (past : List (Exchange I)) : program.Honest proper (fun _ _ => True) past := by
  induction program generalizing past with
  | done value => trivial
  | fail error => trivial
  | call op next ih => exact ⟨all past op, fun answer => ih answer _⟩

theorem honest_uses (proper : List (Exchange I) → I.Op → Prop) (kept : List (Exchange I) → Prop)
    (allowed : I.Op → Prop)
    (proves : ∀ past op, kept past → allowed op → proper past op)
    (keeps : ∀ past op answer, kept past → allowed op → kept (⟨op, answer⟩ :: past))
    (program : Proc I ε α) (uses : program.Uses allowed) (past : List (Exchange I))
    (now : kept past) :
    program.Honest proper (fun later _ => kept later ∧ past ⊆ later) past := by
  induction program generalizing past with
  | done value => exact ⟨now, List.Subset.refl past⟩
  | fail error => exact ⟨now, List.Subset.refl past⟩
  | call op next ih =>
      refine ⟨proves past op now uses.1, fun answer => ?_⟩
      have later := ih answer (uses.2 answer) (⟨op, answer⟩ :: past) (keeps past op answer now uses.1)
      refine honest_post _ _ ?_ _ _ later
      intro final result known
      exact ⟨known.1, List.Subset.trans (List.subset_cons_self _ _) known.2⟩

def Remembers {J : Interface} (send : I.Op → J.Op)
    (receive : ∀ op, Except J.Err (J.Res (send op)) → Except I.Err (I.Res op))
    (inner : List (Exchange I)) (past : List (Exchange J)) : Prop :=
  ∀ exchange ∈ inner, ∃ answer, ⟨send exchange.op, answer⟩ ∈ past ∧
    receive exchange.op answer = exchange.answer

theorem honest_embed {J : Interface} (send : I.Op → J.Op)
    (receive : ∀ op, Except J.Err (J.Res (send op)) → Except I.Err (I.Res op))
    {outer : List (Exchange J) → J.Op → Prop} (kept : List (Exchange J) → Prop)
    (proves : ∀ past op, kept past → outer past (send op))
    (keeps : ∀ past op answer, kept past → kept (⟨send op, answer⟩ :: past))
    (post : List (Exchange I) → Except ε α → Prop) (program : Proc I ε α)
    (inner : List (Exchange I)) (past : List (Exchange J)) (honest : program.Honest proper post inner)
    (remembers : Remembers send receive inner past) (now : kept past) :
    (program.embed send receive).Honest outer (fun later result => kept later ∧ past ⊆ later ∧
      ∃ told, Remembers send receive told later ∧ post told result) past := by
  induction program generalizing inner past with
  | done value => exact ⟨now, List.Subset.refl past, inner, remembers, honest⟩
  | fail error => exact ⟨now, List.Subset.refl past, inner, remembers, honest⟩
  | call op next ih =>
      refine ⟨proves past op now, fun answer => ?_⟩
      have further : Remembers send receive (⟨op, receive op answer⟩ :: inner)
          (⟨send op, answer⟩ :: past) := by
        intro exchange member
        rcases List.mem_cons.mp member with rfl | old
        · exact ⟨answer, List.mem_cons_self, rfl⟩
        · obtain ⟨earlier, there, same⟩ := remembers exchange old
          exact ⟨earlier, List.mem_cons_of_mem _ there, same⟩
      have later := ih (receive op answer) _ _ (honest.2 (receive op answer)) further
        (keeps past op answer now)
      refine honest_post _ _ ?_ _ _ later
      intro last result known
      exact ⟨known.1, List.Subset.trans (List.subset_cons_self _ _) known.2.1, known.2.2⟩

/-- The program fails only after a call of its own did. -/
def Raises (program : Proc I ε α) (past : List (Exchange I)) : Prop :=
  program.Honest (fun _ _ => True) (fun later result => ∀ error, result = .error error →
    ∃ exchange ∈ later, ∃ failure, exchange.answer = .error failure) past

theorem raises_done (value : α) (past : List (Exchange I)) :
    (done value : Proc I ε α).Raises past := by
  intro error same
  cases same

theorem raises_bind (program : Proc I ε α) (rest : α → Proc I ε β) (past : List (Exchange I))
    (first : program.Raises past) (next : ∀ later value, (rest value).Raises later) :
    (program.bind rest).Raises past :=
  honest_bind _ _ program rest past first (fun later value _ => next later value)
    fun _ error raised _ _ => raised error rfl

theorem raises_perform (op : I.Op) (raise : I.Err → ε) (past : List (Exchange I)) :
    (perform op raise : Proc I ε (I.Res op)).Raises past := by
  refine ⟨trivial, fun answer => ?_⟩
  cases answer with
  | ok value => exact raises_done value _
  | error failure => exact fun _ _ => ⟨_, List.mem_cons_self, failure, rfl⟩

theorem raises_forEach (body : α → Proc I ε Unit) (elements : List α) (past : List (Exchange I))
    (turn : ∀ element now, (body element).Raises now) : (forEach body elements).Raises past := by
  induction elements generalizing past with
  | nil => exact raises_done _ _
  | cons head tail ih => exact raises_bind _ _ past (turn head past) fun later _ => ih later

def Yields (proper : List (Exchange I) → I.Op → Prop) (fact : List (Exchange I) → α → Prop)
    (program : Proc I ε α) (past : List (Exchange I)) : Prop :=
  program.Honest proper
    (fun later result => past ⊆ later ∧ ∀ value, result = .ok value → fact later value) past

theorem yields_done (fact : List (Exchange I) → α → Prop) (value : α) (past : List (Exchange I))
    (holds : fact past value) : (done value : Proc I ε α).Yields proper fact past := by
  refine ⟨List.Subset.refl past, ?_⟩
  intro other same
  cases same
  exact holds

theorem yields_fail (fact : List (Exchange I) → α → Prop) (error : ε) (past : List (Exchange I)) :
    (fail error : Proc I ε α).Yields proper fact past := by
  refine ⟨List.Subset.refl past, ?_⟩
  intro other same
  cases same

theorem yields_bind (middle : List (Exchange I) → α → Prop) (fact : List (Exchange I) → β → Prop)
    (program : Proc I ε α) (rest : α → Proc I ε β) (past : List (Exchange I))
    (first : program.Yields proper middle past)
    (next : ∀ later value, past ⊆ later → middle later value →
      (rest value).Yields proper fact later) :
    (program.bind rest).Yields proper fact past := by
  refine honest_bind _ _ program rest past first ?_ ?_
  · intro later value known
    have yields := next later value known.1 (known.2 value rfl)
    refine honest_post _ _ ?_ _ _ yields
    intro last result kept
    exact ⟨List.Subset.trans known.1 kept.1, kept.2⟩
  · intro later error known
    exact ⟨known.1, fun value same => by cases same⟩

theorem yields_perform (fact : List (Exchange I) → β → Prop) (op : I.Op) (raise : I.Err → ε)
    (rest : I.Res op → Proc I ε β) (past : List (Exchange I)) (allowed : proper past op)
    (next : ∀ value, (rest value).Yields proper fact (⟨op, .ok value⟩ :: past)) :
    ((perform op raise).bind rest).Yields proper fact past := by
  have older : ∀ answer, past ⊆ (⟨op, answer⟩ : Exchange I) :: past :=
    fun answer => List.subset_cons_self _ past
  refine honest_perform _ op raise rest past allowed ?_ ?_
  · intro value
    refine honest_post _ _ ?_ _ _ (next value)
    intro last result kept
    exact ⟨List.Subset.trans (older _) kept.1, kept.2⟩
  · intro error
    exact ⟨older _, fun value same => by cases same⟩

theorem yields_ask (op : I.Op) (fact : List (Exchange I) → I.Res op → Prop) (raise : I.Err → ε)
    (past : List (Exchange I)) (allowed : proper past op)
    (holds : ∀ value, fact (⟨op, .ok value⟩ :: past) value) :
    (perform op raise : Proc I ε (I.Res op)).Yields proper fact past := by
  refine ⟨allowed, fun answer => ?_⟩
  cases answer with
  | ok value =>
      refine ⟨List.subset_cons_self _ _, ?_⟩
      intro other same
      cases same
      exact holds value
  | error error => exact ⟨List.subset_cons_self _ _, fun value same => by cases same⟩

theorem yields_forEach (body : α → Proc I ε Unit) (elements : List α) (past : List (Exchange I))
    (turn : ∀ element ∈ elements, ∀ now, (body element).Yields proper (fun _ _ => True) now) :
    (forEach body elements).Yields proper (fun _ _ => True) past := by
  induction elements generalizing past with
  | nil => exact yields_done _ _ _ trivial
  | cons head tail ih =>
      refine yields_bind _ _ _ _ past (turn head List.mem_cons_self past) ?_
      intro later _ _ _
      apply ih
      intro element member
      exact turn element (List.mem_cons_of_mem head member)

theorem yields_forEach_all (fact : List (Exchange I) → α → Prop)
    (kept : ∀ past later element, past ⊆ later → fact past element → fact later element)
    (body : α → Proc I ε Unit) (elements : List α) (past : List (Exchange I))
    (turn : ∀ element ∈ elements, ∀ now, past ⊆ now →
      (body element).Yields proper (fun later _ => fact later element) now) :
    (forEach body elements).Yields proper
      (fun later _ => ∀ element ∈ elements, fact later element) past := by
  induction elements generalizing past with
  | nil => exact yields_done _ _ _ fun _ member => absurd member List.not_mem_nil
  | cons head tail ih =>
      have first := turn head List.mem_cons_self past (List.Subset.refl past)
      refine yields_bind _ _ _ _ past first ?_
      intro later _ grown done
      have rest := ih later fun element member now since =>
        turn element (List.mem_cons_of_mem head member) now (List.Subset.trans grown since)
      refine honest_post _ _ ?_ _ _ rest
      intro last result known
      refine ⟨known.1, fun value same element member => ?_⟩
      rcases List.mem_cons.mp member with rfl | inTail
      · exact kept later last element known.1 done
      · exact known.2 value same element inTail

theorem yields_weaken (weak strong : List (Exchange I) → α → Prop) (program : Proc I ε α)
    (past : List (Exchange I)) (yields : program.Yields proper strong past)
    (implies : ∀ later value, past ⊆ later → strong later value → weak later value) :
    program.Yields proper weak past := by
  refine honest_post _ _ ?_ program past yields
  intro later result known
  exact ⟨known.1, fun value same => implies later value known.1 (known.2 value same)⟩

theorem yields_uses (proper : List (Exchange I) → I.Op → Prop) (allowed : I.Op → Prop)
    (proves : ∀ past op, allowed op → proper past op) (program : Proc I ε α)
    (uses : program.Uses allowed) (past : List (Exchange I)) :
    program.Yields proper (fun _ _ => True) past :=
  honest_post _ _ (fun _ _ known => ⟨known.2, fun _ _ => trivial⟩) _ _
    (honest_uses proper (fun _ => True) allowed (fun past op _ => proves past op)
      (fun _ _ _ _ _ => trivial) program uses past trivial)

end Proc

/-- A machine whose state keeps what every process has called so far. -/
structure Recorded (M : Machine I) where
  trace : Nat → M.State → List (Exchange I)
  own : ∀ pid op env state, trace pid (M.execute pid op env state).2 =
    ⟨op, (M.execute pid op env state).1⟩ :: trace pid state
  other : ∀ pid other op env state, other ≠ pid →
    trace other (M.execute pid op env state).2 = trace other state

variable {M : Machine I}

def Told (recorded : Recorded M) (proper : Nat → List (Exchange I) → I.Op → Prop)
    (post : Nat → List (Exchange I) → Except ε α → Prop) (config : Config M ε α) (pid : Nat) : Prop :=
  match config.slots pid with
  | .waiting => recorded.trace pid config.state = []
  | .active rest => rest.Honest (proper pid) (post pid) (recorded.trace pid config.state)
  | .gone => True

theorem told_reach (recorded : Recorded M) (rules : Rules M)
    (proper : Nat → List (Exchange I) → I.Op → Prop)
    (post : Nat → List (Exchange I) → Except ε α → Prop) (program : Nat → Proc I ε α)
    (honest : ∀ pid, (program pid).Honest (proper pid) (post pid) []) (start : Config M ε α)
    (told : ∀ pid, Told recorded proper post start pid) (config : Config M ε α)
    (reached : Reach rules program start config) (pid : Nat) :
    Told recorded proper post config pid := by
  induction reached with
  | start => exact told pid
  | step label _ _ stepped ih =>
      rcases step_cases _ _ _ label stepped with
        ⟨stepping, rfl, waiting, rfl⟩ | ⟨stepping, env, op, rest, rfl, slot, rfl⟩ |
        ⟨stepping, op, rest, rfl, _, rfl⟩
      · by_cases same : pid = stepping
        · subst same
          have blank := ih
          simp only [Told, waiting] at blank
          simp only [Told, setSlot_self, blank]
          exact honest pid
        · simpa only [Told, setSlot_other _ _ _ _ same] using ih
      · by_cases same : pid = stepping
        · subst same
          have current := ih
          simp only [Told, slot] at current
          simp only [Told, setSlot_self, recorded.own]
          exact current.2 _
        · simp only [Told, setSlot_other _ _ _ _ same, recorded.other _ _ _ _ _ same]
          exact ih
      · by_cases same : pid = stepping
        · subst same
          simp only [Told, setSlot_self]
        · simpa only [Told, setSlot_other _ _ _ _ same] using ih

def Justified (proper : List (Exchange I) → I.Op → Prop) : List (Exchange I) → Prop
  | [] => True
  | exchange :: past => proper past exchange.op ∧ Justified proper past

theorem Justified.mem {proper : List (Exchange I) → I.Op → Prop} {trace : List (Exchange I)}
    (justified : Justified proper trace) {exchange : Exchange I} (made : exchange ∈ trace) :
    ∃ later past, trace = later ++ exchange :: past ∧ proper past exchange.op := by
  induction trace with
  | nil => cases made
  | cons latest past ih =>
      cases made with
      | head => exact ⟨[], past, rfl, justified.1⟩
      | tail _ earlier =>
          obtain ⟨later, before, split, allowed⟩ := ih justified.2 earlier
          exact ⟨latest :: later, before, by rw [split, List.cons_append], allowed⟩

theorem Justified.earlier {proper : List (Exchange I) → I.Op → Prop} {trace : List (Exchange I)}
    (justified : Justified proper trace) {exchange : Exchange I} (made : exchange ∈ trace) :
    ∃ past, past ⊆ trace ∧ proper past exchange.op := by
  obtain ⟨later, past, rfl, allowed⟩ := justified.mem made
  refine ⟨past, ?_, allowed⟩
  intro other member
  exact List.mem_append_right _ (List.mem_cons_of_mem _ member)

def Rules.after (rules : Rules M) (recorded : Recorded M)
    (proper : Nat → List (Exchange I) → I.Op → Prop) : Rules M where
  mayCall := fun pid op env state =>
    rules.mayCall pid op env state ∧ proper pid (recorded.trace pid state) op
  mayHalt := rules.mayHalt

theorem reach_after (recorded : Recorded M) (rules : Rules M)
    (proper : Nat → List (Exchange I) → I.Op → Prop)
    (post : Nat → List (Exchange I) → Except ε α → Prop) (program : Nat → Proc I ε α)
    (honest : ∀ pid, (program pid).Honest (proper pid) (post pid) []) (start : Config M ε α)
    (told : ∀ pid, Told recorded proper post start pid) (config : Config M ε α)
    (reached : Reach rules program start config) :
    Reach (rules.after recorded proper) program start config := by
  refine reach_strengthen rules _ program start ?_ config reached
  intro middle label arrived legal
  cases label with
  | start pid => trivial
  | halt pid => exact legal
  | call pid env =>
      intro op next slot
      have current := told_reach recorded rules proper post program honest start told middle arrived pid
      simp only [Told, slot] at current
      exact ⟨legal op next slot, current.1⟩

theorem justified_execute (recorded : Recorded M) {proper : Nat → List (Exchange I) → I.Op → Prop}
    {state : M.State} (justified : ∀ pid, Justified (proper pid) (recorded.trace pid state))
    (caller : Nat) (op : I.Op) (env : M.Env) (allowed : proper caller (recorded.trace caller state) op)
    (pid : Nat) : Justified (proper pid) (recorded.trace pid (M.execute caller op env state).2) := by
  by_cases same : pid = caller
  · subst same
    rw [recorded.own]
    exact ⟨allowed, justified pid⟩
  · rw [recorded.other _ _ _ _ _ same]
    exact justified pid

theorem justified_reach (recorded : Recorded M) (rules : Rules M)
    (proper : Nat → List (Exchange I) → I.Op → Prop)
    (post : Nat → List (Exchange I) → Except ε α → Prop) (program : Nat → Proc I ε α)
    (honest : ∀ pid, (program pid).Honest (proper pid) (post pid) []) (start : Config M ε α)
    (told : ∀ pid, Told recorded proper post start pid)
    (blank : ∀ pid, recorded.trace pid start.state = []) (config : Config M ε α)
    (reached : Reach rules program start config) (pid : Nat) :
    Justified (proper pid) (recorded.trace pid config.state) := by
  have minded := reach_after recorded rules proper post program honest start told config reached
  refine reach_holds (rules.after recorded proper) program start
    (fun state => ∀ pid, Justified (proper pid) (recorded.trace pid state)) ?_ ?_ config minded pid
  · intro other
    rw [blank other]
    trivial
  · intro caller op env state allowed justified
    exact justified_execute recorded justified caller op env allowed.2

theorem honest_alone (recorded : Recorded M) (pid : Nat) {proper : List (Exchange I) → I.Op → Prop}
    {post : List (Exchange I) → Except ε α → Prop} (program : Proc I ε α) (state : M.State)
    (honest : program.Honest proper post (recorded.trace pid state)) (envs : List M.Env) :
    (∀ result, (alone M pid envs program state).1 = some result →
        post (recorded.trace pid (alone M pid envs program state).2) result) ∧
      ((alone M pid envs program state).1 = none →
        ∃ op, proper (recorded.trace pid (alone M pid envs program state).2) op) := by
  induction program generalizing state envs with
  | done value =>
      rw [alone_done]
      refine ⟨?_, fun none => by cases none⟩
      intro result same
      cases same
      exact honest
  | fail error =>
      rw [alone_fail]
      refine ⟨?_, fun none => by cases none⟩
      intro result same
      cases same
      exact honest
  | call op next ih =>
      cases envs with
      | nil =>
          refine ⟨?_, fun _ => ⟨op, honest.1⟩⟩
          intro result same
          cases same
      | cons env envs =>
          have later := honest.2 (M.execute pid op env state).1
          rw [← recorded.own] at later
          exact ih _ _ later envs

theorem gone_reach (recorded : Recorded M) (rules : Rules M)
    (fact : Nat → List (Exchange I) → Prop)
    (halts : ∀ pid op state, rules.mayHalt pid op state → fact pid (recorded.trace pid state))
    (program : Nat → Proc I ε α) (start : Config M ε α) (fresh : ∀ pid, start.slots pid ≠ .gone)
    (config : Config M ε α) (reached : Reach rules program start config) (pid : Nat)
    (gone : config.slots pid = .gone) : fact pid (recorded.trace pid config.state) := by
  induction reached with
  | start => exact absurd gone (fresh pid)
  | step label _ legal stepped ih =>
      rcases step_cases _ _ _ label stepped with
        ⟨stepping, rfl, waiting, rfl⟩ | ⟨stepping, env, op, rest, rfl, slot, rfl⟩ |
        ⟨stepping, op, rest, rfl, slot, rfl⟩
      · by_cases same : pid = stepping
        · subst same
          simp at gone
        · exact ih (by simpa [setSlot_other _ _ _ _ same] using gone)
      · by_cases same : pid = stepping
        · subst same
          simp at gone
        · have before := ih (by simpa [setSlot_other _ _ _ _ same] using gone)
          rwa [← recorded.other stepping pid op env _ same] at before
      · by_cases same : pid = stepping
        · subst same
          exact halts pid op _ (legal op rest slot)
        · exact ih (by simpa [setSlot_other _ _ _ _ same] using gone)

theorem gone_told (recorded : Recorded M) (rules : Rules M)
    (proper : Nat → List (Exchange I) → I.Op → Prop)
    (post : Nat → List (Exchange I) → Except ε α → Prop) (program : Nat → Proc I ε α)
    (honest : ∀ pid, (program pid).Honest (proper pid) (post pid) []) (start : Config M ε α)
    (told : ∀ pid, Told recorded proper post start pid) (fresh : ∀ pid, start.slots pid ≠ .gone)
    (config : Config M ε α) (reached : Reach rules program start config) (pid : Nat)
    (gone : config.slots pid = .gone) : ∃ op state, rules.mayHalt pid op state ∧
      proper pid (recorded.trace pid config.state) op := by
  have minded : Reach { rules with
      mayHalt := fun pid op state => rules.mayHalt pid op state ∧
        proper pid (recorded.trace pid state) op } program start config := by
    refine reach_strengthen rules _ program start ?_ config reached
    intro middle label arrived legal
    cases label with
    | start pid => trivial
    | call pid env => exact legal
    | halt pid =>
        intro op next slot
        have current := told_reach recorded rules proper post program honest start told middle
          arrived pid
        simp only [Told, slot] at current
        exact ⟨legal op next slot, current.1⟩
  exact gone_reach recorded _ (fun pid trace => ∃ op state, rules.mayHalt pid op state ∧
    proper pid trace op) (fun pid op state allowed => ⟨op, state, allowed⟩) program start fresh config
    minded pid gone

theorem gone_proper (recorded : Recorded M) (rules : Rules M)
    (proper : Nat → List (Exchange I) → I.Op → Prop)
    (post : Nat → List (Exchange I) → Except ε α → Prop) (program : Nat → Proc I ε α)
    (honest : ∀ pid, (program pid).Honest (proper pid) (post pid) []) (start : Config M ε α)
    (told : ∀ pid, Told recorded proper post start pid) (fresh : ∀ pid, start.slots pid ≠ .gone)
    (config : Config M ε α) (reached : Reach rules program start config) (pid : Nat)
    (gone : config.slots pid = .gone) : ∃ op, proper pid (recorded.trace pid config.state) op := by
  obtain ⟨op, _, _, allowed⟩ := gone_told recorded rules proper post program honest start told fresh
    config reached pid gone
  exact ⟨op, allowed⟩

end SafeCameroon.Process
