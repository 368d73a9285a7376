import SafeCameroon.Library.Process
import SafeCameroon.Library.Table

namespace SafeCameroon.ReadCommitted

open Process Table

/-- Tables with unique indexes, and the statements of the transactions on them. A statement sees what
is committed and what its own transaction wrote, and answers with the rows it writes. -/
structure Schema where
  Store : Type
  Write : Type
  Entry : Type
  Statement : Type
  Answer : Statement → Type
  Error : Type
  apply : Store → Write → Store
  entries : Write → List Entry
  exec : (statement : Statement) → Store → Except Error (Answer statement × List Write)

variable {S : Schema}

def Schema.view (S : Schema) (writes : List S.Write) (store : S.Store) : S.Store :=
  writes.foldl S.apply store

/-- What the rows take up in the unique indexes. -/
def Schema.entriesOf (S : Schema) (writes : List S.Write) : List S.Entry := writes.flatMap S.entries

@[simp] theorem view_nil (store : S.Store) : S.view [] store = store := rfl

theorem view_append (first later : List S.Write) (store : S.Store) :
    S.view (first ++ later) store = S.view later (S.view first store) := List.foldl_append

@[simp] theorem entriesOf_append (first later : List S.Write) :
    S.entriesOf (first ++ later) = S.entriesOf first ++ S.entriesOf later := List.flatMap_append

theorem held_view (held : S.Entry → S.Store → Prop)
    (held_apply : ∀ entry store write,
      held entry (S.apply store write) ↔ held entry store ∨ entry ∈ S.entries write)
    (entry : S.Entry) (writes : List S.Write) (store : S.Store) :
    held entry (S.view writes store) ↔ held entry store ∨ entry ∈ S.entriesOf writes := by
  induction writes generalizing store with
  | nil => simp [Schema.entriesOf]
  | cons write writes ih =>
      have rest := ih (S.apply store write)
      simp only [Schema.view, List.foldl_cons] at rest ⊢
      rw [rest, held_apply, Schema.entriesOf, Schema.entriesOf, List.flatMap_cons, List.mem_append,
        or_assoc]

/-- What the indexes and the statements owe to each other. `settled` says of which answers nobody else
can change the ground: a row that was found stays, but one that was missed may come. -/
structure Lawful (S : Schema) (held : S.Entry → S.Store → Prop)
    (settled : (statement : S.Statement) → S.Answer statement → Prop) : Prop where
  held_apply : ∀ entry store write,
    held entry (S.apply store write) ↔ held entry store ∨ entry ∈ S.entries write
  unheld : ∀ statement store answer writes, S.exec statement store = .ok (answer, writes) →
    ∀ entry ∈ S.entriesOf writes, ¬held entry store
  stable : ∀ statement own others store answer writes,
    S.exec statement (S.view own store) = .ok (answer, writes) → settled statement answer →
    (∀ entry ∈ S.entriesOf (own ++ writes), ¬held entry (S.view others store)) →
    S.exec statement (S.view own (S.view others store)) = .ok (answer, writes)

inductive Operation (S : Schema) where
  | begin
  | run (statement : S.Statement)
  | commit
  | rollback

@[reducible] def Operation.Res : Operation S → Type
  | .run statement => S.Answer statement
  | _ => Unit

@[reducible] def interface (S : Schema) : Interface :=
  { Op := Operation S, Res := Operation.Res, Err := S.Error }

/-- What befalls an operation. An error ends the transaction; a commit may take effect although its
answer is lost. -/
inductive Fate (S : Schema) where
  | fine
  | failed (error : S.Error)
  | lost (error : S.Error)

/-- The committed tables, the rows that each process has written since its transaction began, and the
processes that committed, the latest first. -/
structure State (S : Schema) where
  committed : S.Store
  pending : Nat → List S.Write
  commits : List Nat

namespace State

def view (pid : Nat) (state : State S) : S.Store := S.view (state.pending pid) state.committed

def write (pid : Nat) (writes : List S.Write) (state : State S) : State S :=
  { state with pending := Function.update state.pending pid (state.pending pid ++ writes) }

def abandon (pid : Nat) (state : State S) : State S :=
  { state with pending := Function.update state.pending pid [] }

def commit (pid : Nat) (state : State S) : State S :=
  { committed := state.view pid, pending := Function.update state.pending pid []
    commits := pid :: state.commits }

def initial (store : S.Store) : State S :=
  { committed := store, pending := fun _ => [], commits := [] }

end State

def execute (pid : Nat) (op : Operation S) (fate : Fate S) (state : State S) :
    Except S.Error op.Res × State S :=
  match fate, op with
  | .fine, .begin => (.ok (), state)
  | .fine, .run statement =>
      match S.exec statement (state.view pid) with
      | .ok (answer, writes) => (.ok answer, state.write pid writes)
      | .error error => (.error error, state.abandon pid)
  | .fine, .commit => (.ok (), state.commit pid)
  | .fine, .rollback => (.ok (), state.abandon pid)
  | .lost error, .commit => (.error error, state.commit pid)
  | .lost error, _ => (.error error, state.abandon pid)
  | .failed error, _ => (.error error, state.abandon pid)

@[reducible] def machine (S : Schema) : Machine (interface S) where
  State := State S
  Env := Fate S
  execute := execute

/-- A row waits for an open transaction that has an equal entry in a unique index. -/
def Blocked (pid : Nat) (statement : S.Statement) (state : State S) : Prop :=
  ∃ answer writes, S.exec statement (state.view pid) = .ok (answer, writes) ∧
    ∃ other, other ≠ pid ∧ ∃ entry ∈ S.entriesOf writes, entry ∈ S.entriesOf (state.pending other)

/-- Transactions run in any order and anything may fail, but nobody passes a row to wait for. A process
that is dropped ends its transaction as an error does. -/
def rules (S : Schema) : Rules (machine S) where
  mayCall := fun pid op fate state =>
    match fate, op with
    | .fine, .run statement => ¬Blocked pid statement state
    | _, _ => True
  mayHalt := fun _ _ _ => False

section Alone

variable {ε α : Type}

def alone (store : S.Store) : Proc (interface S) ε α → List S.Write →
    Option (Ending (List S.Write) α)
  | .done _, _ => none
  | .fail _, _ => none
  | .call .begin next, writes => alone store (next (.ok ())) writes
  | .call (.run statement) next, writes =>
      match S.exec statement (S.view writes store) with
      | .ok (answer, more) => alone store (next (.ok answer)) (writes ++ more)
      | .error _ => none
  | .call .commit next, writes =>
      match next (.ok ()) with
      | .done value => some (.commit value writes)
      | _ => none
  | .call .rollback next, _ =>
      match next (.ok ()) with
      | .done value => some (.rollback value)
      | _ => none

def Raises (op : Operation S) (next : Except S.Error op.Res → Proc (interface S) ε α) : Prop :=
  ∀ error, ∃ raised, next (.error error) = .fail raised

/-- The program ends its transaction, after an error at once, and every answer it gets on the way is
settled, whatever others commit meanwhile. -/
def Settles (settled : (statement : S.Statement) → S.Answer statement → Prop) :
    Proc (interface S) ε α → S.Store → List S.Write → Prop
  | .done _, _, _ => False
  | .fail _, _, _ => False
  | .call .begin next, store, writes =>
      Raises .begin next ∧ ∀ others, Settles settled (next (.ok ())) (S.view others store) writes
  | .call (.run statement) next, store, writes =>
      Raises (.run statement) next ∧ ∀ others answer more,
        S.exec statement (S.view writes (S.view others store)) = .ok (answer, more) →
          settled statement answer ∧
            Settles settled (next (.ok answer)) (S.view others store) (writes ++ more)
  | .call .commit next, _, _ => Raises .commit next ∧ ∃ value, next (.ok ()) = .done value
  | .call .rollback next, _, _ => Raises .rollback next ∧ ∃ value, next (.ok ()) = .done value

variable {settled : (statement : S.Statement) → S.Answer statement → Prop}

theorem settles_later (program : Proc (interface S) ε α) (store : S.Store)
    (writes others : List S.Write) (settles : Settles settled program store writes) :
    Settles settled program (S.view others store) writes := by
  cases program with
  | done value => exact settles
  | fail error => exact settles
  | call op next =>
      cases op with
      | begin =>
          refine ⟨settles.1, fun more => ?_⟩
          have rest := settles.2 (others ++ more)
          rw [view_append] at rest
          exact rest
      | run statement =>
          refine ⟨settles.1, fun more => ?_⟩
          have rest := settles.2 (others ++ more)
          rw [view_append] at rest
          exact rest
      | commit => exact settles
      | rollback => exact settles

theorem settles_run (statement : S.Statement) (raise : S.Error → ε)
    (rest : S.Answer statement → Proc (interface S) ε α) (store : S.Store) (writes : List S.Write)
    (answers : ∀ others answer more,
      S.exec statement (S.view writes (S.view others store)) = .ok (answer, more) →
        settled statement answer ∧
          Settles settled (rest answer) (S.view others store) (writes ++ more)) :
    Settles settled ((Proc.perform (I := interface S) (.run statement) raise).bind rest) store
      writes := ⟨fun error => ⟨raise error, rfl⟩, answers⟩

theorem alone_run (statement : S.Statement) (raise : S.Error → ε)
    (rest : S.Answer statement → Proc (interface S) ε α) (store : S.Store) (writes : List S.Write)
    (ending : Ending (List S.Write) α)
    (h : alone store ((Proc.perform (I := interface S) (.run statement) raise).bind rest) writes =
      some ending) :
    ∃ answer more, S.exec statement (S.view writes store) = .ok (answer, more) ∧
      alone store (rest answer) (writes ++ more) = some ending := by
  cases result : S.exec statement (S.view writes store) with
  | error error => simp [Proc.perform, Proc.bind, alone, result] at h
  | ok answered =>
      obtain ⟨answer, more⟩ := answered
      exact ⟨answer, more, rfl, by simpa [Proc.perform, Proc.bind, alone, result] using h⟩

theorem settles_map {β : Type} (f : α → β) (program : Proc (interface S) ε α) (store : S.Store)
    (writes : List S.Write) (settles : Settles settled program store writes) :
    Settles settled (program.bind fun value => .done (f value)) store writes := by
  have raises : ∀ (op : Operation S) (next : Except S.Error op.Res → Proc (interface S) ε α),
      Raises op next → Raises op fun answer => (next answer).bind fun value => .done (f value) := by
    intro op next ends error
    obtain ⟨raised, same⟩ := ends error
    exact ⟨raised, congrArg (Proc.bind · _) same⟩
  induction program generalizing store writes with
  | done value => exact settles
  | fail error => exact settles
  | call op next ih =>
      cases op with
      | begin => exact ⟨raises .begin next settles.1, fun others => ih _ _ _ (settles.2 others)⟩
      | run statement =>
          refine ⟨raises (.run statement) next settles.1, fun others answer more result => ?_⟩
          have rest := settles.2 others answer more result
          exact ⟨rest.1, ih _ _ _ rest.2⟩
      | commit =>
          obtain ⟨ends, value, same⟩ := settles
          exact ⟨raises .commit next ends, f value, congrArg (Proc.bind · _) same⟩
      | rollback =>
          obtain ⟨ends, value, same⟩ := settles
          exact ⟨raises .rollback next ends, f value, congrArg (Proc.bind · _) same⟩

theorem alone_map {β : Type} (f : α → β) (program : Proc (interface S) ε α) (store : S.Store)
    (writes : List S.Write) :
    alone store (program.bind fun value => .done (f value)) writes =
      (alone store program writes).map fun ending => ending.map id f := by
  induction program generalizing writes with
  | done value => rfl
  | fail error => rfl
  | call op next ih =>
      cases op with
      | begin => exact ih _ _
      | run statement =>
          simp only [Proc.bind, alone]
          cases S.exec statement (S.view writes store) with
          | error error => rfl
          | ok answered => exact ih _ _
      | commit =>
          simp only [Proc.bind, alone]
          cases next (.ok ()) with
          | done value => rfl
          | fail error => rfl
          | call op later => rfl
      | rollback =>
          simp only [Proc.bind, alone]
          cases next (.ok ()) with
          | done value => rfl
          | fail error => rfl
          | call op later => rfl

/-- Alone on the store, the program gets as far as the rest, with the rows to its name. -/
inductive Replays (settled : (statement : S.Statement) → S.Answer statement → Prop)
    (store : S.Store) (program : Proc (interface S) ε α) :
    List S.Write → Proc (interface S) ε α → Prop where
  | start : Replays settled store program [] program
  | begin {writes next} (before : Replays settled store program writes (.call .begin next)) :
      Replays settled store program writes (next (.ok ()))
  | run {writes statement next answer more}
      (before : Replays settled store program writes (.call (.run statement) next))
      (answered : S.exec statement (S.view writes store) = .ok (answer, more))
      (stays : settled statement answer) :
      Replays settled store program (writes ++ more) (next (.ok answer))

theorem replays_alone (store : S.Store) (program rest : Proc (interface S) ε α)
    (writes : List S.Write) (replays : Replays settled store program writes rest) :
    alone store program [] = alone store rest writes := by
  induction replays with
  | start => rfl
  | begin before ih => rw [ih, alone]
  | run before answered stays ih => rw [ih, alone, answered]

theorem replays_later {held : S.Entry → S.Store → Prop} (lawful : Lawful S held settled)
    (store : S.Store) (others : List S.Write) (program rest : Proc (interface S) ε α)
    (writes : List S.Write) (replays : Replays settled store program writes rest)
    (apart : ∀ entry ∈ S.entriesOf writes, ¬held entry (S.view others store)) :
    Replays settled (S.view others store) program writes rest := by
  induction replays with
  | start => exact .start
  | begin before ih => exact .begin (ih apart)
  | run before answered stays ih =>
      have earlier := ih fun entry member => apart entry (by simp [member])
      exact .run earlier (lawful.stable _ _ others _ _ _ answered stays apart) stays

/-- Open transactions share no entry with each other and none with what is committed, and alone on what
is committed each would be where it is. -/
structure Serial (held : S.Entry → S.Store → Prop)
    (settled : (statement : S.Statement) → S.Answer statement → Prop)
    (program : Nat → Proc (interface S) ε α) (config : Config (machine S) ε α) : Prop where
  apart : ∀ pid other, other ≠ pid → ∀ entry ∈ S.entriesOf (config.state.pending pid),
    entry ∉ S.entriesOf (config.state.pending other)
  new : ∀ pid, ∀ entry ∈ S.entriesOf (config.state.pending pid), ¬held entry config.state.committed
  idle : ∀ pid, (config.slots pid).running = false → config.state.pending pid = []
  replays : ∀ pid op next, config.slots pid = .active (.call op next) →
    Replays settled config.state.committed (program pid) (config.state.pending pid) (.call op next)
  settles : ∀ pid op next, config.slots pid = .active (.call op next) →
    Settles settled (.call op next) config.state.committed (config.state.pending pid)
  ended : ∀ pid ∈ config.state.commits, config.slots pid ≠ .waiting ∧
    (config.slots pid).running = false

variable {held : S.Entry → S.Store → Prop} {program : Nat → Proc (interface S) ε α}
  {config : Config (machine S) ε α}

/-- A slot in which no call is left. -/
structure Ended (slot : Slot (interface S) ε α) : Prop where
  begun : slot ≠ .waiting
  stopped : slot.running = false

theorem ended_raised (op : Operation S) (next : Except S.Error op.Res → Proc (interface S) ε α)
    (raises : Raises op next) (error : S.Error) : Ended (.active (next (.error error))) := by
  obtain ⟨raised, same⟩ := raises error
  rw [same]
  exact ⟨by simp, rfl⟩

theorem settles_raises (op : Operation S) (next : Except S.Error op.Res → Proc (interface S) ε α)
    (store : S.Store) (writes : List S.Write)
    (settles : Settles settled (.call op next) store writes) : Raises op next := by
  cases op <;> exact settles.1

/-- What a step of one process has to keep to: what it commits and what it goes on holding. -/
structure Moves (held : S.Entry → S.Store → Prop)
    (settled : (statement : S.Statement) → S.Answer statement → Prop)
    (program : Nat → Proc (interface S) ε α) (config : Config (machine S) ε α) (pid : Nat)
    (others writes : List S.Write) (commits : List Nat) (slot : Slot (interface S) ε α) : Prop where
  committed : ∀ entry ∈ S.entriesOf others, entry ∈ S.entriesOf (config.state.pending pid)
  apart : ∀ entry ∈ S.entriesOf writes, ∀ other, other ≠ pid →
    entry ∉ S.entriesOf (config.state.pending other)
  new : ∀ entry ∈ S.entriesOf writes, ¬held entry (S.view others config.state.committed)
  idle : slot.running = false → writes = []
  replays : ∀ op next, slot = .active (.call op next) →
    Replays settled (S.view others config.state.committed) (program pid) writes (.call op next)
  settles : ∀ op next, slot = .active (.call op next) →
    Settles settled (.call op next) (S.view others config.state.committed) writes
  ended : ∀ other ∈ commits, (other = pid ∧ slot ≠ .waiting ∧ slot.running = false) ∨
    (other ≠ pid ∧ other ∈ config.state.commits)

theorem Serial.moves (lawful : Lawful S held settled) (serial : Serial held settled program config)
    (pid : Nat) (others writes : List S.Write) (commits : List Nat) (slot : Slot (interface S) ε α)
    (moves : Moves held settled program config pid others writes commits slot) :
    Serial held settled program
      ⟨⟨S.view others config.state.committed, Function.update config.state.pending pid writes, commits⟩,
        setSlot config.slots pid slot⟩ := by
  have theirs : ∀ other, other ≠ pid →
      Function.update config.state.pending pid writes other = config.state.pending other :=
    fun other differs => Function.update_of_ne differs writes config.state.pending
  have untouched : ∀ other, other ≠ pid → ∀ entry ∈ S.entriesOf (config.state.pending other),
      ¬held entry (S.view others config.state.committed) := by
    intro other differs entry member now
    rcases (held_view held lawful.held_apply entry others config.state.committed).mp now with
      before | added
    · exact serial.new other entry member before
    · exact serial.apart pid other differs entry (moves.committed entry added) member
  constructor
  · intro first second differs entry member
    dsimp only at member ⊢
    by_cases mine : first = pid
    · subst mine
      rw [Function.update_self] at member
      rw [theirs second differs]
      exact moves.apart entry member second differs
    · rw [theirs first mine] at member
      by_cases other : second = pid
      · subst other
        rw [Function.update_self]
        intro inWrites
        exact moves.apart entry inWrites first mine member
      · rw [theirs second other]
        exact serial.apart first second differs entry member
  · intro other entry member
    dsimp only at member ⊢
    by_cases mine : other = pid
    · subst mine
      rw [Function.update_self] at member
      exact moves.new entry member
    · rw [theirs other mine] at member
      exact untouched other mine entry member
  · intro other stopped
    dsimp only at stopped ⊢
    by_cases mine : other = pid
    · subst mine
      rw [setSlot_self] at stopped
      rw [Function.update_self]
      exact moves.idle stopped
    · rw [setSlot_other _ _ _ _ mine] at stopped
      rw [theirs other mine]
      exact serial.idle other stopped
  · intro other op next active
    dsimp only at active ⊢
    by_cases mine : other = pid
    · subst mine
      rw [setSlot_self] at active
      rw [Function.update_self]
      exact moves.replays op next active
    · rw [setSlot_other _ _ _ _ mine] at active
      rw [theirs other mine]
      exact replays_later lawful _ others _ _ _ (serial.replays other op next active)
        (untouched other mine)
  · intro other op next active
    dsimp only at active ⊢
    by_cases mine : other = pid
    · subst mine
      rw [setSlot_self] at active
      rw [Function.update_self]
      exact moves.settles op next active
    · rw [setSlot_other _ _ _ _ mine] at active
      rw [theirs other mine]
      exact settles_later _ _ _ others (serial.settles other op next active)
  · intro other member
    dsimp only at member ⊢
    rcases moves.ended other member with ⟨rfl, begun, stopped⟩ | ⟨differs, before⟩
    · rw [setSlot_self]
      exact ⟨begun, stopped⟩
    · rw [setSlot_other _ _ _ _ differs]
      exact serial.ended other before

theorem Serial.unfinished (serial : Serial held settled program config) (pid : Nat)
    (going : config.slots pid = .waiting ∨ (config.slots pid).running = true) (other : Nat)
    (member : other ∈ config.state.commits) : other ≠ pid ∧ other ∈ config.state.commits := by
  refine ⟨?_, member⟩
  intro same
  subst same
  obtain ⟨begun, stopped⟩ := serial.ended other member
  rcases going with waiting | running
  · exact begun waiting
  · rw [stopped] at running
    cases running

theorem Serial.abandon (lawful : Lawful S held settled)
    (serial : Serial held settled program config) (pid : Nat)
    (running : (config.slots pid).running = true) (slot : Slot (interface S) ε α)
    (ended : Ended slot) :
    Serial held settled program ⟨config.state.abandon pid, setSlot config.slots pid slot⟩ := by
  apply serial.moves lawful pid [] []
  constructor
  · intro entry member
    cases member
  · intro entry member
    cases member
  · intro entry member
    cases member
  · intro _
    rfl
  · intro op next active
    have stopped := ended.stopped
    rw [active] at stopped
    cases stopped
  · intro op next active
    have stopped := ended.stopped
    rw [active] at stopped
    cases stopped
  · intro other member
    exact Or.inr (serial.unfinished pid (Or.inr running) other member)

theorem Serial.commit (lawful : Lawful S held settled)
    (serial : Serial held settled program config) (pid : Nat)
    (running : (config.slots pid).running = true) (slot : Slot (interface S) ε α)
    (ended : Ended slot) :
    Serial held settled program ⟨config.state.commit pid, setSlot config.slots pid slot⟩ := by
  apply serial.moves lawful pid (config.state.pending pid) []
  constructor
  · intro entry member
    exact member
  · intro entry member
    cases member
  · intro entry member
    cases member
  · intro _
    rfl
  · intro op next active
    have stopped := ended.stopped
    rw [active] at stopped
    cases stopped
  · intro op next active
    have stopped := ended.stopped
    rw [active] at stopped
    cases stopped
  · intro other member
    rcases List.mem_cons.mp member with same | before
    · exact Or.inl ⟨same, ended.begun, ended.stopped⟩
    · exact Or.inr (serial.unfinished pid (Or.inr running) other before)

theorem Serial.goOn (lawful : Lawful S held settled)
    (serial : Serial held settled program config) (pid : Nat)
    (going : config.slots pid = .waiting ∨ (config.slots pid).running = true)
    (rest : Proc (interface S) ε α) (more : List S.Write)
    (free : ∀ entry ∈ S.entriesOf more, (∀ other, other ≠ pid →
      entry ∉ S.entriesOf (config.state.pending other)) ∧ ¬held entry config.state.committed)
    (replays : Replays settled config.state.committed (program pid)
      (config.state.pending pid ++ more) rest)
    (settles : Settles settled rest config.state.committed (config.state.pending pid ++ more)) :
    Serial held settled program
      ⟨config.state.write pid more, setSlot config.slots pid (.active rest)⟩ := by
  apply serial.moves lawful pid [] (config.state.pending pid ++ more)
  constructor
  · intro entry member
    cases member
  · intro entry member other differs
    rw [entriesOf_append, List.mem_append] at member
    rcases member with before | added
    · exact serial.apart pid other differs entry before
    · exact (free entry added).1 other differs
  · intro entry member
    rw [entriesOf_append, List.mem_append] at member
    rcases member with before | added
    · exact serial.new pid entry before
    · exact (free entry added).2
  · intro stopped
    cases rest with
    | done value => exact settles.elim
    | fail error => exact settles.elim
    | call op next => cases stopped
  · intro op next active
    cases active
    exact replays
  · intro op next active
    cases active
    exact settles
  · intro other member
    exact Or.inr (serial.unfinished pid going other member)

theorem State.write_nil (pid : Nat) (state : State S) : state.write pid [] = state := by
  simp [State.write]

/-- What one step comes to: nothing, or the end of one transaction just as it is when the program runs
alone on what is committed. The answer of a commit may be lost. -/
inductive Stepped (program : Nat → Proc (interface S) ε α) (config next : Config (machine S) ε α) :
    Prop where
  | quiet (store : next.state.committed = config.state.committed)
      (commits : next.state.commits = config.state.commits)
      (answers : ∀ pid value, next.slots pid = .active (.done value) →
        config.slots pid = .active (.done value))
  | rolledBack (pid : Nat) (value : α) (begun : config.slots pid ≠ .waiting)
      (first : pid ∉ config.state.commits)
      (ends : alone config.state.committed (program pid) [] = some (.rollback value))
      (store : next.state.committed = config.state.committed)
      (commits : next.state.commits = config.state.commits)
      (answers : ∀ other answer, next.slots other = .active (.done answer) →
        (other = pid ∧ answer = value) ∨
          (other ≠ pid ∧ config.slots other = .active (.done answer)))
  | committed (pid : Nat) (value : α) (writes : List S.Write) (begun : config.slots pid ≠ .waiting)
      (first : pid ∉ config.state.commits)
      (ends : alone config.state.committed (program pid) [] = some (.commit value writes))
      (store : next.state.committed = S.view writes config.state.committed)
      (commits : next.state.commits = pid :: config.state.commits)
      (answers : ∀ other answer, next.slots other = .active (.done answer) →
        (other = pid ∧ answer = value) ∨
          (other ≠ pid ∧ config.slots other = .active (.done answer)))

theorem answers_set (slots : Nat → Slot (interface S) ε α) (pid : Nat)
    (rest : Proc (interface S) ε α) (other : Nat) (answer : α)
    (h : setSlot slots pid (.active rest) other = .active (.done answer)) :
    (other = pid ∧ rest = .done answer) ∨ (other ≠ pid ∧ slots other = .active (.done answer)) := by
  by_cases mine : other = pid
  · subst mine
    rw [setSlot_self] at h
    exact Or.inl ⟨rfl, Slot.active.inj h⟩
  · rw [setSlot_other _ _ _ _ mine] at h
    exact Or.inr ⟨mine, h⟩

theorem settles_going (rest : Proc (interface S) ε α) (store : S.Store) (writes : List S.Write)
    (settles : Settles settled rest store writes) (answer : α) : rest ≠ .done answer := by
  intro same
  rw [same] at settles
  exact settles

theorem serial_raised (lawful : Lawful S held settled) (serial : Serial held settled program config)
    (pid : Nat) (op : Operation S) (rest : Except S.Error op.Res → Proc (interface S) ε α)
    (active : config.slots pid = .active (.call op rest)) (error : S.Error) (state : State S)
    (left : state = config.state.abandon pid ∨
      op = .commit ∧ state = config.state.commit pid) :
    let next : Config (machine S) ε α :=
      ⟨state, setSlot config.slots pid (.active (rest (.error error)))⟩
    Serial held settled program next ∧ Stepped program config next := by
  have running : (config.slots pid).running = true := by rw [active]; rfl
  have raises := settles_raises op rest _ _ (serial.settles pid op rest active)
  have ended := ended_raised op rest raises error
  have silent : ∀ other answer,
      setSlot config.slots pid (.active (rest (.error error))) other = .active (.done answer) →
        other ≠ pid ∧ config.slots other = .active (.done answer) := by
    intro other answer h
    obtain ⟨raised, same⟩ := raises error
    rcases answers_set _ _ _ _ _ h with ⟨_, done⟩ | rest
    · rw [same] at done
      cases done
    · exact rest
  have first : pid ∉ config.state.commits := fun member =>
    (serial.unfinished pid (Or.inr running) pid member).1 rfl
  rcases left with rfl | ⟨rfl, rfl⟩
  · exact ⟨serial.abandon lawful pid running _ ended,
      .quiet rfl rfl fun other answer h => (silent other answer h).2⟩
  · refine ⟨serial.commit lawful pid running _ ended, ?_⟩
    obtain ⟨_, value, done⟩ := serial.settles pid .commit rest active
    refine .committed pid value (config.state.pending pid) (by simp [active]) first ?_ rfl rfl ?_
    · rw [replays_alone _ _ _ _ (serial.replays pid .commit rest active), alone, done]
    · intro other answer h
      exact Or.inr (silent other answer h)

theorem serial_call (lawful : Lawful S held settled) (serial : Serial held settled program config)
    (pid : Nat) (op : Operation S) (rest : Except S.Error op.Res → Proc (interface S) ε α)
    (active : config.slots pid = .active (.call op rest)) (fate : Fate S)
    (legal : (rules S).mayCall pid op fate config.state) :
    let next : Config (machine S) ε α := ⟨(execute pid op fate config.state).2,
      setSlot config.slots pid (.active (rest (execute pid op fate config.state).1))⟩
    Serial held settled program next ∧ Stepped program config next := by
  have running : (config.slots pid).running = true := by rw [active]; rfl
  have replays := serial.replays pid op rest active
  have settles := serial.settles pid op rest active
  have first : pid ∉ config.state.commits := fun member =>
    (serial.unfinished pid (Or.inr running) pid member).1 rfl
  cases fate with
  | failed error => exact serial_raised lawful serial pid op rest active error _ (Or.inl rfl)
  | lost error =>
      cases op with
      | commit => exact serial_raised lawful serial pid .commit rest active error _ (Or.inr ⟨rfl, rfl⟩)
      | begin => exact serial_raised lawful serial pid .begin rest active error _ (Or.inl rfl)
      | run statement =>
          exact serial_raised lawful serial pid (.run statement) rest active error _ (Or.inl rfl)
      | rollback => exact serial_raised lawful serial pid .rollback rest active error _ (Or.inl rfl)
  | fine =>
      cases op with
      | begin =>
          have goes := settles.2 []
          have on := serial.goOn lawful pid (Or.inr running) (rest (.ok ())) []
            (fun entry member => by cases member) (by simpa using replays.begin) (by simpa using goes)
          rw [State.write_nil] at on
          refine ⟨on, .quiet rfl rfl fun other answer h => ?_⟩
          rcases answers_set _ _ _ _ _ h with ⟨_, done⟩ | ⟨_, before⟩
          · exact absurd done (settles_going _ _ _ goes answer)
          · exact before
      | run statement =>
          cases result : S.exec statement (config.state.view pid) with
          | error error =>
              simp only [execute, result]
              exact serial_raised lawful serial pid (.run statement) rest active error _ (Or.inl rfl)
          | ok answered =>
              obtain ⟨answer, more⟩ := answered
              have goes := settles.2 [] answer more result
              have free : ∀ entry ∈ S.entriesOf more, (∀ other, other ≠ pid →
                  entry ∉ S.entriesOf (config.state.pending other)) ∧
                    ¬held entry config.state.committed := by
                intro entry member
                constructor
                · intro other differs clash
                  exact legal ⟨answer, more, result, other, differs, entry, member, clash⟩
                · intro before
                  exact lawful.unheld statement _ answer more result entry member
                    ((held_view held lawful.held_apply entry _ _).mpr (Or.inl before))
              simp only [execute, result]
              refine ⟨serial.goOn lawful pid (Or.inr running) (rest (.ok answer)) more free
                (replays.run result goes.1) goes.2, .quiet rfl rfl fun other value h => ?_⟩
              rcases answers_set _ _ _ _ _ h with ⟨_, done⟩ | ⟨_, before⟩
              · exact absurd done (settles_going _ _ _ goes.2 value)
              · exact before
      | commit =>
          obtain ⟨_, value, done⟩ := settles
          have ends := replays_alone _ _ _ _ replays
          simp only [alone, done] at ends
          simp only [execute, done]
          refine ⟨serial.commit lawful pid running _ ⟨by simp, rfl⟩,
            .committed pid value (config.state.pending pid) (by simp [active]) first ends rfl rfl ?_⟩
          intro other answer h
          rcases answers_set _ _ _ _ _ h with ⟨same, equal⟩ | before
          · exact Or.inl ⟨same, (Proc.done.inj equal).symm⟩
          · exact Or.inr before
      | rollback =>
          obtain ⟨_, value, done⟩ := settles
          have ends := replays_alone _ _ _ _ replays
          simp only [alone, done] at ends
          simp only [execute, done]
          refine ⟨serial.abandon lawful pid running _ ⟨by simp, rfl⟩,
            .rolledBack pid value (by simp [active]) first ends rfl rfl ?_⟩
          intro other answer h
          rcases answers_set _ _ _ _ _ h with ⟨same, equal⟩ | before
          · exact Or.inl ⟨same, (Proc.done.inj equal).symm⟩
          · exact Or.inr before

theorem serial_step (lawful : Lawful S held settled)
    (settles : ∀ pid store, Settles settled (program pid) store [])
    (serial : Serial held settled program config) (next : Config (machine S) ε α)
    (label : Label (Fate S)) (legal : (rules S).legal config label)
    (stepped : step program config label = some next) :
    Serial held settled program next ∧ Stepped program config next := by
  rcases step_cases program config next label stepped with
    ⟨pid, rfl, waiting, rfl⟩ | ⟨pid, fate, op, rest, rfl, active, rfl⟩ | ⟨pid, op, rest, rfl, active, _⟩
  · have quiet : config.state.pending pid = [] := serial.idle pid (by rw [waiting]; rfl)
    have goes := settles pid config.state.committed
    have on := serial.goOn lawful pid (Or.inl waiting) (program pid) []
      (fun entry member => by cases member) (by simpa [quiet] using .start) (by simpa [quiet] using goes)
    rw [State.write_nil] at on
    refine ⟨on, .quiet rfl rfl fun other answer h => ?_⟩
    rcases answers_set _ _ _ _ _ h with ⟨_, done⟩ | ⟨_, before⟩
    · exact absurd done (settles_going _ _ _ goes answer)
    · exact before
  · exact serial_call lawful serial pid op rest active fate (legal op rest active)
  · exact (legal op rest active).elim

theorem serial_initial (store : S.Store) :
    Serial held settled program (initially (State.initial store)) := by
  constructor
  · intro pid other differs entry member
    cases member
  · intro pid entry member
    cases member
  · intro pid stopped
    rfl
  · intro pid op next active
    cases active
  · intro pid op next active
    cases active
  · intro pid member
    cases member

/-- What every transaction preserves that runs alone holds in every run, of the tables and of the
answers given so far. Only the transactions that have begun count. -/
theorem serial_rule (lawful : Lawful S held settled)
    (settles : ∀ pid store, Settles settled (program pid) store [])
    (good : S.Store → List Nat → Prop) (answered : Nat → α → S.Store → List Nat → Prop)
    (calls : Nat → Prop) (init : S.Store) (first : good init [])
    (commits : ∀ store done pid value writes, calls pid → good store done → pid ∉ done →
      alone store (program pid) [] = some (.commit value writes) →
        good (S.view writes store) (pid :: done) ∧
          answered pid value (S.view writes store) (pid :: done))
    (rolls : ∀ store done pid value, calls pid → good store done → pid ∉ done →
      alone store (program pid) [] = some (.rollback value) → answered pid value store done)
    (lasts : ∀ store done pid value other ended writes, calls pid → calls other → good store done →
      answered pid value store done → other ≠ pid → other ∉ done →
        alone store (program other) [] = some (.commit ended writes) →
          answered pid value (S.view writes store) (other :: done))
    (config : Config (machine S) ε α)
    (reached : Reach (rules S) program (initially (State.initial init)) config)
    (begun : ∀ pid, config.slots pid ≠ .waiting → calls pid) :
    good config.state.committed config.state.commits ∧
      ∀ pid value, config.slots pid = .active (.done value) →
        answered pid value config.state.committed config.state.commits := by
  have holds : Serial held settled program config ∧
      good config.state.committed config.state.commits ∧
      ∀ pid value, config.slots pid = .active (.done value) →
        answered pid value config.state.committed config.state.commits := by
    induction reached with
    | start =>
        refine ⟨serial_initial init, first, ?_⟩
        intro pid value active
        cases active
    | step label _ legal stepped ih =>
        have earlier := fun pid running => begun pid (step_begun program _ _ label stepped pid running)
        obtain ⟨serial, fine, answers⟩ := ih earlier
        obtain ⟨after, outcome⟩ := serial_step lawful settles serial _ label legal stepped
        refine ⟨after, ?_⟩
        cases outcome with
        | quiet store same slots =>
            rw [store, same]
            exact ⟨fine, fun pid value active => answers pid value (slots pid value active)⟩
        | rolledBack pid value going new ends store same slots =>
            rw [store, same]
            refine ⟨fine, fun other answer active => ?_⟩
            rcases slots other answer active with ⟨rfl, rfl⟩ | ⟨_, before⟩
            · exact rolls _ _ _ _ (earlier _ going) fine new ends
            · exact answers other answer before
        | committed pid value writes going new ends store same slots =>
            rw [store, same]
            have done := commits _ _ pid value writes (earlier pid going) fine new ends
            refine ⟨done.1, fun other answer active => ?_⟩
            rcases slots other answer active with ⟨rfl, rfl⟩ | ⟨differs, before⟩
            · exact done.2
            · have mine := earlier other (by rw [before]; simp)
              exact lasts _ _ other answer pid value writes mine (earlier pid going) fine
                (answers other answer before) (Ne.symm differs) new ends
  exact holds.2

def value : Ending (List S.Write) α → α
  | .commit value _ => value
  | .rollback value => value

def leaves (store : S.Store) : Ending (List S.Write) α → S.Store
  | .commit _ writes => S.view writes store
  | .rollback _ => store

theorem reach_fine (start : Config (machine S) ε α) (pid : Nat) (config : Config (machine S) ε α)
    (reached : Reach (rules S) program start config) (op : Operation S)
    (next : Except S.Error op.Res → Proc (interface S) ε α)
    (active : config.slots pid = .active (.call op next))
    (free : (rules S).mayCall pid op Fate.fine config.state) :
    Reach (rules S) program start ⟨(execute pid op Fate.fine config.state).2,
      setSlot config.slots pid (.active (next (execute pid op Fate.fine config.state).1))⟩ := by
  refine .step (Label.call pid Fate.fine) reached ?_ ?_
  · intro other rest slot
    rw [active] at slot
    cases slot
    exact free
  · simp only [step, active]

theorem reach_alone (start : Config (machine S) ε α) (pid : Nat) (rest : Proc (interface S) ε α)
    (config : Config (machine S) ε α) (reached : Reach (rules S) program start config)
    (active : config.slots pid = .active rest)
    (quiet : ∀ other, other ≠ pid → config.state.pending other = [])
    (ending : Ending (List S.Write) α)
    (ends : alone config.state.committed rest (config.state.pending pid) = some ending) :
    ∃ final, Reach (rules S) program start final ∧ (∀ other, final.state.pending other = []) ∧
      final.slots = setSlot config.slots pid (.active (.done (value ending))) ∧
      final.state.committed = leaves config.state.committed ending := by
  induction rest generalizing config with
  | done value => simp [alone] at ends
  | fail error => simp [alone] at ends
  | call op next ih =>
      have same : ∀ first last, setSlot (setSlot config.slots pid first) pid last =
          setSlot config.slots pid last := by
        intro first last
        funext other
        by_cases mine : other = pid <;> simp [setSlot, mine]
      have emptied : ∀ other, Function.update config.state.pending pid [] other = [] := by
        intro other
        by_cases mine : other = pid
        · subst mine
          exact Function.update_self ..
        · exact (Function.update_of_ne mine ..).trans (quiet other mine)
      cases op with
      | begin =>
          have later := reach_fine start pid config reached .begin next active trivial
          obtain ⟨final, arrived, silent, slots, store⟩ := ih (.ok ()) _ later (setSlot_self _ _ _)
            quiet ends
          exact ⟨final, arrived, silent, slots.trans (same _ _), store⟩
      | run statement =>
          have free : ¬Blocked pid statement config.state := by
            intro blocked
            obtain ⟨_, _, _, other, differs, entry, _, clash⟩ := blocked
            rw [quiet other differs] at clash
            cases clash
          have later := reach_fine start pid config reached (.run statement) next active free
          simp only [alone] at ends
          split at ends
          · rename_i answer more result
            simp only [execute, State.view, result] at later
            have mine : (config.state.write pid more).pending pid = config.state.pending pid ++ more :=
              Function.update_self ..
            have others : ∀ other, other ≠ pid → (config.state.write pid more).pending other = [] := by
              intro other differs
              exact (Function.update_of_ne differs ..).trans (quiet other differs)
            obtain ⟨final, arrived, silent, slots, store⟩ := ih (.ok answer) _ later
              (setSlot_self _ _ _) others (by rw [mine]; exact ends)
            exact ⟨final, arrived, silent, slots.trans (same _ _), store⟩
          · cases ends
      | commit =>
          have later := reach_fine start pid config reached .commit next active trivial
          simp only [alone] at ends
          split at ends
          · rename_i answer done
            obtain rfl := Option.some.inj ends
            simp only [execute, done] at later
            exact ⟨_, later, emptied, rfl, rfl⟩
          · cases ends
      | rollback =>
          have later := reach_fine start pid config reached .rollback next active trivial
          simp only [alone] at ends
          split at ends
          · rename_i answer done
            obtain rfl := Option.some.inj ends
            simp only [execute, done] at later
            exact ⟨_, later, emptied, rfl, rfl⟩
          · cases ends

/-- A process that has not begun can run to its end while no transaction is open. -/
theorem reach_whole (start : Config (machine S) ε α) (pid : Nat) (config : Config (machine S) ε α)
    (reached : Reach (rules S) program start config) (waiting : config.slots pid = .waiting)
    (quiet : ∀ other, config.state.pending other = []) (ending : Ending (List S.Write) α)
    (ends : alone config.state.committed (program pid) [] = some ending) :
    ∃ final, Reach (rules S) program start final ∧ (∀ other, final.state.pending other = []) ∧
      final.slots = setSlot config.slots pid (.active (.done (value ending))) ∧
      final.state.committed = leaves config.state.committed ending := by
  have stepped : step program config (.start pid) =
      some { config with slots := setSlot config.slots pid (.active (program pid)) } := by
    simp only [step, waiting]
  have later := Reach.step (.start pid) reached trivial stepped
  obtain ⟨final, arrived, silent, slots, store⟩ := reach_alone start pid (program pid) _ later
    (setSlot_self _ _ _) (fun other _ => quiet other) ending (by rw [quiet pid]; exact ends)
  refine ⟨final, arrived, silent, slots.trans ?_, store⟩
  funext other
  by_cases mine : other = pid <;> simp [setSlot, mine]

end Alone

end SafeCameroon.ReadCommitted
