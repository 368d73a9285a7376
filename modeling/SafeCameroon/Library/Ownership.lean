import SafeCameroon.Library.Process
import Mathlib.Data.Set.Basic

namespace SafeCameroon.Ownership

open SafeCameroon.Process

/-- How the processes of a pool share a state. A process may own guarded keys that it is entitled to;
what it knows of a key it owns survives every step of the others. `grows` relates the states around
a step of the process named, and `abandoned` are the sets of keys that a dropped process may leave
behind. -/
structure Discipline {I : Interface} {M : Machine I} (rules : Rules M) (Key : Type) where
  inv : M.State → Prop
  grows : Nat → M.State → M.State → Prop
  guarded : Key → M.State → Prop
  same : Key → M.State → M.State → Prop
  entitled : Nat → Key → Prop
  abandoned : Set Key → Prop
  same_guarded : ∀ key s t, same key s t → guarded key s → guarded key t

variable {I : Interface} {M : Machine I} {rules : Rules M} {Key ε α β : Type}

/-- What one call may do for a process that owns `own` before it and `kept` after it. -/
structure Keeps (D : Discipline rules Key) (pid : Nat) (own : Set Key) (s : M.State)
    (kept : Set Key) (t : M.State) : Prop where
  inv : D.inv t
  grows : D.grows pid s t
  entitled : ∀ key ∈ kept, D.entitled pid key
  frame : ∀ key, key ∉ own → D.guarded key s → D.same key s t
  owned : ∀ key ∈ kept, D.guarded key t
  fresh : ∀ key ∈ kept, key ∈ own ∨ ¬ D.guarded key s
  accounted : ∀ key, D.guarded key t → key ∈ kept ∨ (D.guarded key s ∧ key ∉ own)

def Stable (D : Discipline rules Key) (pid : Nat) (own : Set Key) (fact : M.State → Prop) : Prop :=
  ∀ other s t, other ≠ pid → fact s → D.inv s → D.inv t → D.grows other s t →
    (∀ key ∈ own, D.same key s t) → fact t

abbrev Post (M : Machine I) (Key ε α : Type) := Set Key → Except ε α → M.State → Prop

def Safe (D : Discipline rules Key) (pid : Nat) (post : Post M Key ε α) :
    Proc I ε α → Set Key → (M.State → Prop) → Prop
  | .done value, own, fact => ∀ s, D.inv s → fact s → post own (.ok value) s
  | .fail error, own, fact => ∀ s, D.inv s → fact s → post own (.error error) s
  | .call op next, own, fact =>
      (∀ s, D.inv s → fact s → rules.mayHalt pid op s → D.abandoned own) ∧
      ∀ env s, D.inv s → fact s → rules.mayCall pid op env s →
        ∃ kept known, Keeps D pid own s kept (M.execute pid op env s).2 ∧ Stable D pid kept known ∧
          known (M.execute pid op env s).2 ∧
          Safe D pid post (next (M.execute pid op env s).1) kept known

theorem stable_true (D : Discipline rules Key) (pid : Nat) (own : Set Key) :
    Stable D pid own fun _ => True := fun _ _ _ _ _ _ _ _ _ => trivial

theorem stable_const (D : Discipline rules Key) (pid : Nat) (own : Set Key) (fact : Prop) :
    Stable D pid own fun _ => fact := fun _ _ _ _ known _ _ _ _ => known

theorem stable_and (D : Discipline rules Key) (pid : Nat) (own : Set Key)
    (first second : M.State → Prop) (left : Stable D pid own first)
    (right : Stable D pid own second) : Stable D pid own fun s => first s ∧ second s := by
  intro other s t differs both before after grows same
  exact ⟨left other s t differs both.1 before after grows same,
    right other s t differs both.2 before after grows same⟩

theorem safe_vacuous (D : Discipline rules Key) (pid : Nat) (post : Post M Key ε α)
    (program : Proc I ε α) (own : Set Key) (fact : M.State → Prop)
    (never : ∀ s, D.inv s → ¬ fact s) : Safe D pid post program own fact := by
  cases program with
  | done value => exact fun s inv known => absurd known (never s inv)
  | fail error => exact fun s inv known => absurd known (never s inv)
  | call op next =>
      exact ⟨fun s inv known => absurd known (never s inv),
        fun _ s inv known => absurd known (never s inv)⟩

theorem safe_weaken (D : Discipline rules Key) (pid : Nat) (post : Post M Key ε α)
    (program : Proc I ε α) (own : Set Key) (fact stronger : M.State → Prop)
    (implies : ∀ s, D.inv s → stronger s → fact s) (safe : Safe D pid post program own fact) :
    Safe D pid post program own stronger := by
  cases program with
  | done value => exact fun s inv known => safe s inv (implies s inv known)
  | fail error => exact fun s inv known => safe s inv (implies s inv known)
  | call op next =>
      refine ⟨fun s inv known => safe.1 s inv (implies s inv known), fun env s inv known => ?_⟩
      exact safe.2 env s inv (implies s inv known)

theorem safe_post (D : Discipline rules Key) (pid : Nat) (post weaker : Post M Key ε α)
    (implies : ∀ own answer s, D.inv s → post own answer s → weaker own answer s)
    (program : Proc I ε α) (own : Set Key) (fact : M.State → Prop)
    (safe : Safe D pid post program own fact) : Safe D pid weaker program own fact := by
  induction program generalizing own fact with
  | done value => exact fun s inv known => implies own _ s inv (safe s inv known)
  | fail error => exact fun s inv known => implies own _ s inv (safe s inv known)
  | call op next ih =>
      refine ⟨safe.1, fun env s inv known legal => ?_⟩
      obtain ⟨kept, after, keeps, stable, holds, rest⟩ := safe.2 env s inv known legal
      exact ⟨kept, after, keeps, stable, holds, ih _ kept after rest⟩

theorem safe_frame (D : Discipline rules Key) (pid : Nat) (post : Post M Key ε α)
    (program : Proc I ε α) (own : Set Key) (fact carried : M.State → Prop)
    (kept : ∀ mover s t, carried s → D.inv s → D.inv t → D.grows mover s t → carried t)
    (safe : Safe D pid post program own fact) :
    Safe D pid (fun own answer s => post own answer s ∧ carried s) program own
      fun s => fact s ∧ carried s := by
  induction program generalizing own fact with
  | done value => exact fun s inv known => ⟨safe s inv known.1, known.2⟩
  | fail error => exact fun s inv known => ⟨safe s inv known.1, known.2⟩
  | call op next ih =>
      refine ⟨fun s inv known => safe.1 s inv known.1, fun env s inv known legal => ?_⟩
      obtain ⟨later, after, keeps, stable, holds, rest⟩ := safe.2 env s inv known.1 legal
      refine ⟨later, fun s => after s ∧ carried s, keeps, ?_,
        ⟨holds, kept pid s _ known.2 inv keeps.inv keeps.grows⟩, ih _ later after rest⟩
      exact stable_and D pid later after carried stable
        fun other s t _ known before after grows _ => kept other s t known before after grows

theorem safe_bind (D : Discipline rules Key) (pid : Nat) (middle : Post M Key ε α)
    (post : Post M Key ε β) (program : Proc I ε α) (rest : α → Proc I ε β) (own : Set Key)
    (fact : M.State → Prop) (first : Safe D pid middle program own fact)
    (continues : ∀ value kept, Safe D pid post (rest value) kept (middle kept (.ok value)))
    (fails : ∀ error kept s, D.inv s → middle kept (.error error) s → post kept (.error error) s) :
    Safe D pid post (program.bind rest) own fact := by
  induction program generalizing own fact with
  | done value =>
      exact safe_weaken D pid post (rest value) own _ fact first (continues value own)
  | fail error => exact fun s inv known => fails error own s inv (first s inv known)
  | call op next ih =>
      refine ⟨first.1, fun env s inv known legal => ?_⟩
      obtain ⟨kept, after, keeps, stable, holds, later⟩ := first.2 env s inv known legal
      exact ⟨kept, after, keeps, stable, holds, ih _ kept after later⟩

/-- What a first part must reach for the rest to go on, when its errors end the whole. -/
def Continue (mine : α → Set Key) (learns : α → M.State → Prop) (post : Post M Key ε β) :
    Post M Key ε α := fun kept answer s =>
  match answer with
  | .ok value => kept = mine value ∧ learns value s
  | .error error => post kept (.error error) s

theorem safe_then (D : Discipline rules Key) (pid : Nat) (post : Post M Key ε β)
    (program : Proc I ε α) (rest : α → Proc I ε β) (own : Set Key) (fact : M.State → Prop)
    (mine : α → Set Key) (learns : α → M.State → Prop)
    (first : Safe D pid (Continue mine learns post) program own fact)
    (later : ∀ value, Safe D pid post (rest value) (mine value) (learns value)) :
    Safe D pid post (program.bind rest) own fact := by
  refine safe_bind D pid _ post program rest own fact first ?_ fun error kept s _ failed => failed
  intro value kept
  by_cases same : kept = mine value
  · subst same
    exact safe_weaken D pid post _ _ _ _ (fun s _ known => known.2) (later value)
  · exact safe_vacuous D pid post _ kept _ fun s _ known => same known.1

theorem safe_perform (D : Discipline rules Key) (pid : Nat) (op : I.Op)
    (post : Post M Key ε (I.Res op)) (raise : I.Err → ε) (own : Set Key) (fact : M.State → Prop)
    (drop : ∀ s, D.inv s → fact s → rules.mayHalt pid op s → D.abandoned own)
    (succeeds : ∀ env s value, D.inv s → fact s → rules.mayCall pid op env s →
      (M.execute pid op env s).1 = .ok value →
        ∃ kept, Keeps D pid own s kept (M.execute pid op env s).2 ∧
          Stable D pid kept (post kept (.ok value)) ∧
          post kept (.ok value) (M.execute pid op env s).2)
    (fails : ∀ env s error, D.inv s → fact s → rules.mayCall pid op env s →
      (M.execute pid op env s).1 = .error error →
        ∃ kept, Keeps D pid own s kept (M.execute pid op env s).2 ∧
          Stable D pid kept (post kept (.error (raise error))) ∧
          post kept (.error (raise error)) (M.execute pid op env s).2) :
    Safe D pid post (Proc.perform op raise) own fact := by
  refine ⟨drop, fun env s inv known legal => ?_⟩
  cases answer : (M.execute pid op env s).1 with
  | ok value =>
      obtain ⟨kept, keeps, stable, after⟩ := succeeds env s value inv known legal answer
      exact ⟨kept, _, keeps, stable, after, fun _ _ holds => holds⟩
  | error error =>
      obtain ⟨kept, keeps, stable, after⟩ := fails env s error inv known legal answer
      exact ⟨kept, _, keeps, stable, after, fun _ _ holds => holds⟩

theorem safe_mapError {η : Type} (D : Discipline rules Key) (pid : Nat) (raise : ε → η)
    (post : Post M Key η α) (program : Proc I ε α) (own : Set Key) (fact : M.State → Prop)
    (safe : Safe D pid (fun kept answer s => post kept (answer.mapError raise) s) program own fact) :
    Safe D pid post (program.mapError raise) own fact := by
  induction program generalizing own fact with
  | done value => exact safe
  | fail error => exact safe
  | call op next ih =>
      refine ⟨safe.1, fun env s inv known legal => ?_⟩
      obtain ⟨kept, after, keeps, stable, holds, later⟩ := safe.2 env s inv known legal
      exact ⟨kept, after, keeps, stable, holds, ih _ kept after later⟩

/-- Handling both endings of a program: what the postcondition says of either is known after it. -/
theorem safe_attempt {η : Type} (D : Discipline rules Key) (pid : Nat)
    (post : Post M Key η (Except ε α)) (program : Proc I ε α) (own : Set Key)
    (fact : M.State → Prop)
    (safe : Safe D pid (fun kept answer s => post kept (.ok answer) s) program own fact) :
    Safe D pid post (program.attempt (η := η)) own fact := by
  induction program generalizing own fact with
  | done value => exact safe
  | fail error => exact safe
  | call op next ih =>
      refine ⟨safe.1, fun env s inv known legal => ?_⟩
      obtain ⟨kept, after, keeps, stable, holds, later⟩ := safe.2 env s inv known legal
      exact ⟨kept, after, keeps, stable, holds, ih _ kept after later⟩

theorem safe_forEach (D : Discipline rules Key) (pid : Nat) (post : Post M Key ε Unit)
    (body : β → Proc I ε Unit) (owns : List β → Set Key) (knows : List β → M.State → Prop)
    (elements : List β)
    (ends : ∀ s, D.inv s → knows [] s → post (owns []) (.ok ()) s)
    (turn : ∀ head tail, Safe D pid (Continue (fun _ => owns tail) (fun _ => knows tail) post)
      (body head) (owns (head :: tail)) (knows (head :: tail))) :
    Safe D pid post (Proc.forEach body elements) (owns elements) (knows elements) := by
  induction elements with
  | nil => exact ends
  | cons head tail ih =>
      exact safe_then D pid post (body head) _ _ _ _ _ (turn head tail) fun _ => ih

structure Assigned (D : Discipline rules Key) (post : Nat → Post M Key ε α) (config : Config M ε α)
    (own : Nat → Set Key) (know : Nat → M.State → Prop) : Prop where
  inv : D.inv config.state
  apart : ∀ pid other key, key ∈ own pid → key ∈ own other → pid = other
  owned : ∀ pid, ∀ key ∈ own pid, D.guarded key config.state
  entitled : ∀ pid, ∀ key ∈ own pid, D.entitled pid key
  covered : ∀ key, D.guarded key config.state → ∃ pid, key ∈ own pid
  stable : ∀ pid, Stable D pid (own pid) (know pid)
  known : ∀ pid, know pid config.state
  waiting : ∀ pid, config.slots pid = .waiting → own pid = ∅
  active : ∀ pid rest, config.slots pid = .active rest →
    Safe D pid (post pid) rest (own pid) (know pid)
  gone : ∀ pid, config.slots pid = .gone → D.abandoned (own pid)

def assign {β : Type} (f : Nat → β) (pid : Nat) (value : β) : Nat → β :=
  fun other => if other = pid then value else f other

@[simp] theorem assign_self {β : Type} (f : Nat → β) (pid : Nat) (value : β) :
    assign f pid value pid = value := by simp [assign]

theorem assign_other {β : Type} (f : Nat → β) (pid other : Nat) (value : β) (h : other ≠ pid) :
    assign f pid value other = f other := by simp [assign, h]

theorem assigned_init (D : Discipline rules Key) (post : Nat → Post M Key ε α) (init : M.State)
    (inv : D.inv init) (free : ∀ key, ¬ D.guarded key init) :
    Assigned D post (initially init : Config M ε α) (fun _ => ∅) fun _ _ => True where
  inv := inv
  apart := fun _ _ _ member => absurd member (Set.notMem_empty _)
  owned := fun _ _ member => absurd member (Set.notMem_empty _)
  entitled := fun _ _ member => absurd member (Set.notMem_empty _)
  covered := fun key guarded => absurd guarded (free key)
  stable := fun pid => stable_true D pid ∅
  known := fun _ => trivial
  waiting := fun _ _ => rfl
  active := fun _ _ slot => by simp [initially] at slot
  gone := fun _ slot => by simp [initially] at slot

theorem assigned_start (D : Discipline rules Key) (post : Nat → Post M Key ε α)
    (config : Config M ε α) (own : Nat → Set Key) (know : Nat → M.State → Prop)
    (assigned : Assigned D post config own know) (pid : Nat) (program : Proc I ε α)
    (idle : config.slots pid = .waiting)
    (safe : Safe D pid (post pid) program ∅ fun _ => True) :
    Assigned D post { config with slots := setSlot config.slots pid (.active program) } own know := by
  have empty := assigned.waiting pid idle
  refine { assigned with waiting := ?_, active := ?_, gone := ?_ }
  · intro other slot
    by_cases same : other = pid
    · exact same ▸ empty
    · exact assigned.waiting other (by simpa [setSlot_other _ _ _ _ same] using slot)
  · intro other rest slot
    by_cases same : other = pid
    · subst same
      obtain rfl : program = rest := by simpa using slot
      rw [empty]
      exact safe_weaken D other _ program ∅ _ _ (fun _ _ _ => trivial) safe
    · exact assigned.active other rest (by simpa [setSlot_other _ _ _ _ same] using slot)
  · intro other slot
    by_cases same : other = pid
    · subst same
      simp at slot
    · exact assigned.gone other (by simpa [setSlot_other _ _ _ _ same] using slot)

theorem assigned_halt (D : Discipline rules Key) (post : Nat → Post M Key ε α)
    (config : Config M ε α) (own : Nat → Set Key) (know : Nat → M.State → Prop)
    (assigned : Assigned D post config own know) (pid : Nat) (abandoned : D.abandoned (own pid)) :
    Assigned D post { config with slots := setSlot config.slots pid .gone } own know := by
  refine { assigned with waiting := ?_, active := ?_, gone := ?_ }
  · intro other slot
    by_cases same : other = pid
    · subst same
      simp at slot
    · exact assigned.waiting other (by simpa [setSlot_other _ _ _ _ same] using slot)
  · intro other rest slot
    by_cases same : other = pid
    · subst same
      simp at slot
    · exact assigned.active other rest (by simpa [setSlot_other _ _ _ _ same] using slot)
  · intro other slot
    by_cases same : other = pid
    · exact same ▸ abandoned
    · exact assigned.gone other (by simpa [setSlot_other _ _ _ _ same] using slot)

theorem assigned_call (D : Discipline rules Key) (post : Nat → Post M Key ε α)
    (config : Config M ε α) (own : Nat → Set Key) (know : Nat → M.State → Prop)
    (assigned : Assigned D post config own know) (pid : Nat) (kept : Set Key)
    (known : M.State → Prop) (state : M.State) (rest : Proc I ε α)
    (keeps : Keeps D pid (own pid) config.state kept state) (stable : Stable D pid kept known)
    (holds : known state) (safe : Safe D pid (post pid) rest kept known) :
    Assigned D post ⟨state, setSlot config.slots pid (.active rest)⟩ (assign own pid kept)
      (assign know pid known) := by
  have others : ∀ other, other ≠ pid → ∀ key ∈ own other, key ∉ own pid := by
    intro other differs key member mine
    exact differs (assigned.apart other pid key member mine)
  have framed : ∀ other, other ≠ pid → ∀ key ∈ own other, D.same key config.state state := by
    intro other differs key member
    exact keeps.frame key (others other differs key member) (assigned.owned other key member)
  have foreign : ∀ other, other ≠ pid → ∀ key ∈ own other, key ∉ kept := by
    intro other differs key member inKept
    rcases keeps.fresh key inKept with mine | free
    · exact others other differs key member mine
    · exact free (assigned.owned other key member)
  refine ⟨keeps.inv, ?_, ?_, ?_, ?_, ?_, ?_, ?_, ?_, ?_⟩
  · intro first second key left right
    by_cases mine : first = pid <;> by_cases yours : second = pid
    · rw [mine, yours]
    · subst mine
      rw [assign_self] at left
      rw [assign_other _ _ _ _ yours] at right
      exact absurd left (foreign second yours key right)
    · subst yours
      rw [assign_self] at right
      rw [assign_other _ _ _ _ mine] at left
      exact absurd right (foreign first mine key left)
    · rw [assign_other _ _ _ _ mine] at left
      rw [assign_other _ _ _ _ yours] at right
      exact assigned.apart first second key left right
  · intro other key member
    by_cases same : other = pid
    · subst same
      exact keeps.owned key (by simpa using member)
    · rw [assign_other _ _ _ _ same] at member
      exact D.same_guarded key _ _ (framed other same key member)
        (assigned.owned other key member)
  · intro other key member
    by_cases same : other = pid
    · subst same
      exact keeps.entitled key (by simpa using member)
    · rw [assign_other _ _ _ _ same] at member
      exact assigned.entitled other key member
  · intro key guarded
    rcases keeps.accounted key guarded with mine | ⟨before, foreignKey⟩
    · exact ⟨pid, by simpa using mine⟩
    · obtain ⟨other, member⟩ := assigned.covered key before
      have differs : other ≠ pid := fun same => foreignKey (same ▸ member)
      exact ⟨other, by rw [assign_other _ _ _ _ differs]; exact member⟩
  · intro other
    by_cases same : other = pid
    · subst same
      simpa using stable
    · rw [assign_other _ _ _ _ same, assign_other _ _ _ _ same]
      exact assigned.stable other
  · intro other
    by_cases same : other = pid
    · subst same
      simpa using holds
    · rw [assign_other _ _ _ _ same]
      exact assigned.stable other pid _ _ (Ne.symm same) (assigned.known other) assigned.inv
        keeps.inv keeps.grows (framed other same)
  · intro other slot
    by_cases same : other = pid
    · subst same
      simp at slot
    · rw [assign_other _ _ _ _ same]
      exact assigned.waiting other (by simpa [setSlot_other _ _ _ _ same] using slot)
  · intro other remaining slot
    by_cases same : other = pid
    · subst same
      obtain rfl : rest = remaining := by simpa using slot
      simpa using safe
    · rw [assign_other _ _ _ _ same, assign_other _ _ _ _ same]
      exact assigned.active other remaining (by simpa [setSlot_other _ _ _ _ same] using slot)
  · intro other slot
    by_cases same : other = pid
    · subst same
      simp at slot
    · rw [assign_other _ _ _ _ same]
      exact assigned.gone other (by simpa [setSlot_other _ _ _ _ same] using slot)

theorem assigned_step (D : Discipline rules Key) (post : Nat → Post M Key ε α)
    (program : Nat → Proc I ε α) (safe : ∀ pid, Safe D pid (post pid) (program pid) ∅ fun _ => True)
    (config next : Config M ε α) (own : Nat → Set Key) (know : Nat → M.State → Prop)
    (assigned : Assigned D post config own know) (label : Label M.Env)
    (legal : rules.legal config label) (stepped : step program config label = some next) :
    (∃ own know, Assigned D post next own know) ∧
      (next.state = config.state ∨ ∃ pid, D.grows pid config.state next.state) := by
  rcases step_cases program _ _ label stepped with
    ⟨pid, rfl, idle, rfl⟩ | ⟨pid, env, op, rest, rfl, slot, rfl⟩ | ⟨pid, op, rest, rfl, slot, rfl⟩
  · exact ⟨⟨own, know, assigned_start D post _ own know assigned pid _ idle (safe pid)⟩, Or.inl rfl⟩
  · have current := assigned.active pid _ slot
    obtain ⟨kept, known, keeps, stable, holds, later⟩ :=
      current.2 env _ assigned.inv (assigned.known pid) (legal op rest slot)
    exact ⟨⟨_, _, assigned_call D post _ own know assigned pid kept known _ _ keeps stable holds
      later⟩, Or.inr ⟨pid, keeps.grows⟩⟩
  · have current := assigned.active pid _ slot
    have abandoned := current.1 _ assigned.inv (assigned.known pid) (legal op rest slot)
    exact ⟨⟨own, know, assigned_halt D post _ own know assigned pid abandoned⟩, Or.inl rfl⟩

theorem assigned_reach (D : Discipline rules Key) (post : Nat → Post M Key ε α)
    (program : Nat → Proc I ε α) (init : M.State) (inv : D.inv init)
    (free : ∀ key, ¬ D.guarded key init)
    (safe : ∀ pid, Safe D pid (post pid) (program pid) ∅ fun _ => True)
    (config : Config M ε α) (reached : Reach rules program (initially init) config) :
    ∃ own know, Assigned D post config own know := by
  induction reached with
  | start => exact ⟨_, _, assigned_init D post init inv free⟩
  | step label reached legal stepped ih =>
      obtain ⟨own, know, assigned⟩ := ih
      exact (assigned_step D post program safe _ _ own know assigned label legal stepped).1

theorem assigned_progress (D : Discipline rules Key) (post : Nat → Post M Key ε α)
    (program : Nat → Proc I ε α)
    (safe : ∀ pid, Safe D pid (post pid) (program pid) ∅ fun _ => True)
    (progress : M.State → M.State → Prop) (refl : ∀ s, progress s s)
    (trans : ∀ s t u, progress s t → progress t u → progress s u)
    (grows : ∀ pid s t, D.inv s → D.grows pid s t → progress s t)
    (start config : Config M ε α) (assigned : ∃ own know, Assigned D post start own know)
    (reached : Reach rules program start config) :
    progress start.state config.state ∧ ∃ own know, Assigned D post config own know := by
  induction reached with
  | start => exact ⟨refl _, assigned⟩
  | step label reached legal stepped ih =>
      obtain ⟨before, own, know, current⟩ := ih
      have after := assigned_step D post program safe _ _ own know current label legal stepped
      refine ⟨?_, after.1⟩
      rcases after.2 with same | ⟨pid, growth⟩
      · exact same ▸ before
      · exact trans _ _ _ before (grows pid _ _ current.inv growth)

end SafeCameroon.Ownership
