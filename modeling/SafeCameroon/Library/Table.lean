import Mathlib.Data.List.Sort
import Mathlib.Data.List.Nodup

namespace SafeCameroon.Table

variable {Row Key ε α σ : Type}

theorem bind_ok {β : Type} (first : Except ε α) (rest : α → Except ε β) (value : β) :
    (first >>= rest) = .ok value ↔ ∃ middle, first = .ok middle ∧ rest middle = .ok value := by
  cases first <;> simp [bind, Except.bind]

theorem bind_error {β : Type} (first : Except ε α) (rest : α → Except ε β) (error : ε) :
    (first >>= rest) = .error error ↔
      first = .error error ∨ ∃ middle, first = .ok middle ∧ rest middle = .error error := by
  cases first <;> simp [bind, Except.bind]

theorem mapM_mem (read : Row → Except ε α) (rows : List Row) (values : List α)
    (h : rows.mapM read = .ok values) (value : α) (member : value ∈ values) :
    ∃ row ∈ rows, read row = .ok value := by
  induction rows generalizing values with
  | nil =>
      obtain rfl : values = [] := by simpa [pure, Except.pure, eq_comm] using h
      exact absurd member List.not_mem_nil
  | cons row rows ih =>
      simp only [List.mapM_cons, bind_ok, pure, Except.pure, Except.ok.injEq] at h
      obtain ⟨first, result, rest, later, rfl⟩ := h
      rcases List.mem_cons.mp member with rfl | inRest
      · exact ⟨row, List.mem_cons_self, result⟩
      · obtain ⟨other, inRows, found⟩ := ih rest later inRest
        exact ⟨other, List.mem_cons_of_mem _ inRows, found⟩

theorem mapM_image (read : Row → Except ε α) (rows : List Row) (values : List α)
    (h : rows.mapM read = .ok values) (row : Row) (member : row ∈ rows) :
    ∃ value ∈ values, read row = .ok value := by
  induction rows generalizing values with
  | nil => exact absurd member List.not_mem_nil
  | cons first rows ih =>
      simp only [List.mapM_cons, bind_ok, pure, Except.pure, Except.ok.injEq] at h
      obtain ⟨value, result, rest, later, rfl⟩ := h
      rcases List.mem_cons.mp member with rfl | inRest
      · exact ⟨value, List.mem_cons_self, result⟩
      · obtain ⟨other, inValues, found⟩ := ih rest later inRest
        exact ⟨other, List.mem_cons_of_mem _ inValues, found⟩

theorem mapM_forall₂ (read : Row → Except ε α) (holds : Row → α → Prop) (rows : List Row)
    (values : List α) (h : rows.mapM read = .ok values)
    (each : ∀ row ∈ rows, ∀ value, read row = .ok value → holds row value) :
    List.Forall₂ holds rows values := by
  induction rows generalizing values with
  | nil =>
      obtain rfl : values = [] := by simpa [pure, Except.pure, eq_comm] using h
      exact .nil
  | cons row rows ih =>
      simp only [List.mapM_cons, bind_ok, pure, Except.pure, Except.ok.injEq] at h
      obtain ⟨value, result, rest, later, rfl⟩ := h
      have first := each row List.mem_cons_self value result
      exact .cons first (ih rest later fun other member => each other (List.mem_cons_of_mem _ member))

theorem mapM_total (read : Row → Except ε α) (rows : List Row)
    (each : ∀ row ∈ rows, ∃ value, read row = .ok value) :
    ∃ values, rows.mapM read = .ok values := by
  induction rows with
  | nil => exact ⟨[], rfl⟩
  | cons row rows ih =>
      obtain ⟨value, first⟩ := each row List.mem_cons_self
      obtain ⟨values, rest⟩ := ih fun other member => each other (List.mem_cons_of_mem _ member)
      refine ⟨value :: values, ?_⟩
      simp only [List.mapM_cons, bind_ok, pure, Except.pure, Except.ok.injEq]
      exact ⟨value, first, values, rest, rfl⟩

theorem mapM_readable (read : Row → Except ε α) (rows : List Row)
    (each : ∀ row ∈ rows, ∃ value, read row = .ok value) :
    rows.mapM read = .ok (rows.filterMap fun row => (read row).toOption) := by
  induction rows with
  | nil => rfl
  | cons row rows ih =>
      obtain ⟨value, first⟩ := each row List.mem_cons_self
      have rest := ih fun other member => each other (List.mem_cons_of_mem _ member)
      simp only [List.mapM_cons, first, rest, List.filterMap_cons, Except.toOption]
      rfl

/-- How the body of a transaction ends: with its writes, or without them. -/
inductive Ending (σ α : Type) where
  | commit (value : α) (store : σ)
  | rollback (value : α)

def Ending.map {τ β : Type} (f : σ → τ) (g : α → β) : Ending σ α → Ending τ β
  | .commit value store => .commit (g value) (f store)
  | .rollback value => .rollback (g value)

/-- A transaction takes effect as a whole or not at all. A fault of the database rolls it back. -/
def transaction (fault : Bool) (failure : ε) (body : σ → Except ε (Ending σ α)) (store : σ) :
    Except ε α × σ :=
  if fault then (.error failure, store)
  else match body store with
    | .error error => (.error error, store)
    | .ok (.rollback value) => (.ok value, store)
    | .ok (.commit value after) => (.ok value, after)

def query (fault : Bool) (failure : ε) (body : σ → Except ε α) (store : σ) : Except ε α × σ :=
  (if fault then .error failure else body store, store)

@[simp] theorem query_store (fault : Bool) (failure : ε) (body : σ → Except ε α) (store : σ) :
    (query fault failure body store).2 = store := rfl

theorem query_ok (fault : Bool) (failure : ε) (body : σ → Except ε α) (store : σ) (value : α)
    (h : (query fault failure body store).1 = .ok value) : body store = .ok value := by
  cases fault with
  | true => simp [query] at h
  | false => simpa [query] using h

theorem transaction_cases (fault : Bool) (failure : ε) (body : σ → Except ε (Ending σ α))
    (store : σ) :
    (∃ error, (error = failure ∨ body store = .error error) ∧
        transaction fault failure body store = (.error error, store)) ∨
      (∃ value, body store = .ok (.rollback value) ∧
        transaction fault failure body store = (.ok value, store)) ∨
      ∃ value after, body store = .ok (.commit value after) ∧
        transaction fault failure body store = (.ok value, after) := by
  cases fault with
  | true => exact Or.inl ⟨failure, Or.inl rfl, by simp [transaction]⟩
  | false =>
      cases result : body store with
      | error error => exact Or.inl ⟨error, Or.inr rfl, by simp [transaction, result]⟩
      | ok ending =>
          cases ending with
          | rollback value => exact Or.inr (Or.inl ⟨value, rfl, by simp [transaction, result]⟩)
          | commit value after =>
              exact Or.inr (Or.inr ⟨value, after, rfl, by simp [transaction, result]⟩)

theorem transaction_error (fault : Bool) (failure : ε) (body : σ → Except ε (Ending σ α))
    (store : σ) (error : ε) (h : (transaction fault failure body store).1 = .error error) :
    (transaction fault failure body store).2 = store := by
  rcases transaction_cases fault failure body store with
    ⟨_, _, ended⟩ | ⟨_, _, ended⟩ | ⟨_, _, _, ended⟩
  · rw [ended]
  · rw [ended]
  · simp [ended] at h

theorem transaction_ok (fault : Bool) (failure : ε) (body : σ → Except ε (Ending σ α))
    (store : σ) (value : α) (h : (transaction fault failure body store).1 = .ok value) :
    (body store = .ok (.rollback value) ∧ (transaction fault failure body store).2 = store) ∨
      ∃ after, body store = .ok (.commit value after) ∧
        (transaction fault failure body store).2 = after := by
  rcases transaction_cases fault failure body store with
    ⟨_, _, ended⟩ | ⟨other, result, ended⟩ | ⟨other, after, result, ended⟩
  · simp [ended] at h
  · obtain rfl : other = value := by simpa [ended] using h
    exact Or.inl ⟨result, by rw [ended]⟩
  · obtain rfl : other = value := by simpa [ended] using h
    exact Or.inr ⟨after, result, by rw [ended]⟩

theorem transaction_related (related : σ → σ → Prop) (refl : ∀ store, related store store)
    (fault : Bool) (failure : ε) (body : σ → Except ε (Ending σ α)) (store : σ)
    (commits : ∀ value after, body store = .ok (.commit value after) → related store after) :
    related store (transaction fault failure body store).2 := by
  rcases transaction_cases fault failure body store with
    ⟨_, _, ended⟩ | ⟨_, _, ended⟩ | ⟨value, after, result, ended⟩
  · rw [ended]
    exact refl store
  · rw [ended]
    exact refl store
  · rw [ended]
    exact commits value after result

theorem nodup_snoc (elements : List Key) (element : Key) (distinct : elements.Nodup)
    (new : element ∉ elements) : (elements ++ [element]).Nodup := by
  refine List.nodup_append.mpr ⟨distinct, List.nodup_singleton _, ?_⟩
  intro left member right single same
  rw [List.mem_singleton] at single
  exact new (single ▸ same ▸ member)

theorem flatMap_origin (parts : Row → List Key) (rows : List Row)
    (distinct : (rows.flatMap parts).Nodup) {first second : Row} {value : Key} (left : first ∈ rows)
    (right : second ∈ rows) (inFirst : value ∈ parts first) (inSecond : value ∈ parts second) :
    first = second := by
  induction rows with
  | nil => cases left
  | cons head tail ih =>
      rw [List.flatMap_cons, List.nodup_append] at distinct
      have apart : value ∈ parts head → ∀ other ∈ tail, value ∉ parts other := by
        intro here other member there
        exact distinct.2.2 value here value (List.mem_flatMap.mpr ⟨other, member, there⟩) rfl
      rcases List.mem_cons.mp left with rfl | earlier
      · rcases List.mem_cons.mp right with rfl | later
        · rfl
        · exact absurd inSecond (apart inFirst second later)
      · rcases List.mem_cons.mp right with rfl | later
        · exact absurd inFirst (apart inSecond first earlier)
        · exact ih distinct.2.1 earlier later

def insertUnique [DecidableEq Key] (failure : ε) (key : Row → Key) (row : Row) (table : List Row) :
    Except ε (List Row) :=
  if key row ∈ table.map key then .error failure else .ok (table ++ [row])

theorem insertUnique_ok [DecidableEq Key] (failure : ε) (key : Row → Key) (row : Row)
    (table after : List Row) (h : insertUnique failure key row table = .ok after) :
    after = table ++ [row] ∧ key row ∉ table.map key := by
  by_cases taken : key row ∈ table.map key
  · simp [insertUnique, taken] at h
  · simp only [insertUnique, taken, if_false, Except.ok.injEq] at h
    exact ⟨h.symm, taken⟩

theorem insertUnique_new [DecidableEq Key] (failure : ε) (key : Row → Key) (row : Row)
    (table : List Row) (new : key row ∉ table.map key) :
    insertUnique failure key row table = .ok (table ++ [row]) := by
  simp only [insertUnique, new, if_false]

theorem insertUnique_error [DecidableEq Key] (failure error : ε) (key : Row → Key) (row : Row)
    (table : List Row) (h : insertUnique failure key row table = .error error) : error = failure := by
  by_cases taken : key row ∈ table.map key
  · simpa [insertUnique, taken, eq_comm] using h
  · simp [insertUnique, taken] at h

def orderBy (column tie : Row → Nat) (rows : List Row) : List Row :=
  rows.insertionSort fun left right =>
    column left < column right ∨ (column left = column right ∧ tie left ≤ tie right)

theorem orderBy_perm (column tie : Row → Nat) (rows : List Row) :
    (orderBy column tie rows).Perm rows := List.perm_insertionSort _ rows

@[simp] theorem mem_orderBy (column tie : Row → Nat) (rows : List Row) (row : Row) :
    row ∈ orderBy column tie rows ↔ row ∈ rows := (orderBy_perm column tie rows).mem_iff

def lookup [DecidableEq Key] (key : Row → Key) (wanted : Key) (table : List Row) : Option Row :=
  table.find? fun row => key row = wanted

theorem lookup_some [DecidableEq Key] (key : Row → Key) (wanted : Key) (table : List Row) (row : Row)
    (found : lookup key wanted table = some row) : row ∈ table ∧ key row = wanted := by
  refine ⟨List.mem_of_find?_eq_some found, ?_⟩
  simpa using List.find?_some found

theorem lookup_none [DecidableEq Key] (key : Row → Key) (wanted : Key) (table : List Row) :
    lookup key wanted table = none ↔ ∀ row ∈ table, key row ≠ wanted := by
  simp [lookup]

theorem eq_of_key (key : Row → Key) (table : List Row) (distinct : (table.map key).Nodup)
    (first second : Row) (left : first ∈ table) (right : second ∈ table)
    (same : key first = key second) : first = second :=
  List.inj_on_of_nodup_map distinct left right same

theorem lookup_mem [DecidableEq Key] (key : Row → Key) (table : List Row)
    (distinct : (table.map key).Nodup) (row : Row) (member : row ∈ table) :
    lookup key (key row) table = some row := by
  cases found : lookup key (key row) table with
  | none => exact absurd rfl ((lookup_none key _ table).mp found row member)
  | some other =>
      obtain ⟨inTable, same⟩ := lookup_some key _ table other found
      rw [eq_of_key key table distinct other row inTable member same]

theorem lookup_perm [DecidableEq Key] (key : Row → Key) (table other : List Row)
    (order : table.Perm other) (distinct : (table.map key).Nodup) (wanted : Key) :
    lookup key wanted other = lookup key wanted table := by
  have reordered : (other.map key).Nodup := (order.map key).nodup_iff.mp distinct
  cases found : lookup key wanted table with
  | none =>
      rw [lookup_none] at found ⊢
      intro row member
      exact found row (order.symm.subset member)
  | some row =>
      obtain ⟨member, rfl⟩ := lookup_some _ _ _ _ found
      exact lookup_mem key other reordered row (order.subset member)

theorem lookup_rows_sublist [DecidableEq Key] (key : Row → Key) (table rows : List Row) :
    ((rows.filterMap fun row => lookup key (key row) table).map key).Sublist (rows.map key) := by
  induction rows with
  | nil => exact .slnil
  | cons row rows ih =>
      rw [List.filterMap_cons]
      cases found : lookup key (key row) table with
      | none => exact ih.cons _
      | some stored =>
          simp only [List.map_cons, (lookup_some key _ table stored found).2]
          exact ih.cons_cons _

def updateWhere (selected : Row → Bool) (change : Row → Row) (table : List Row) : List Row :=
  table.map fun row => if selected row then change row else row

theorem mem_updateWhere (selected : Row → Bool) (change : Row → Row) (table : List Row) (row : Row) :
    row ∈ updateWhere selected change table ↔
      ∃ before ∈ table, (selected before = true ∧ row = change before) ∨
        (selected before = false ∧ row = before) := by
  simp only [updateWhere, List.mem_map]
  constructor
  · rintro ⟨before, member, rfl⟩
    refine ⟨before, member, ?_⟩
    cases choice : selected before <;> simp
  · rintro ⟨before, member, ⟨choice, rfl⟩ | ⟨choice, rfl⟩⟩
    · exact ⟨before, member, by simp [choice]⟩
    · exact ⟨row, member, by simp [choice]⟩

theorem lookup_updateWhere [DecidableEq Key] (key : Row → Key) (chosen wanted : Key)
    (change : Row → Row) (table : List Row) (keeps : ∀ row, key (change row) = key row) :
    lookup key wanted (updateWhere (fun row => decide (key row = chosen)) change table) =
      (lookup key wanted table).map fun row => if wanted = chosen then change row else row := by
  induction table with
  | nil => rfl
  | cons row rows ih =>
      have unmoved : key (if decide (key row = chosen) then change row else row) = key row := by
        split
        · exact keeps row
        · rfl
      simp only [lookup, updateWhere, List.map_cons, List.find?_cons, unmoved] at ih ⊢
      by_cases same : key row = wanted
      · simp [same]
      · simp only [same, decide_false]
        exact ih

theorem map_key_updateWhere (key : Row → Key) (selected : Row → Bool) (change : Row → Row)
    (table : List Row) (keeps : ∀ row, key (change row) = key row) :
    (updateWhere selected change table).map key = table.map key := by
  simp only [updateWhere, List.map_map]
  apply List.map_congr_left
  intro row _
  cases choice : selected row <;> simp [choice, keeps]

theorem filter_updateWhere (keep selected : Row → Bool) (change : Row → Row) (table : List Row)
    (keeps : ∀ row, keep (change row) = keep row)
    (apart : ∀ row ∈ table, keep row = true → selected row = false) :
    (updateWhere selected change table).filter keep = table.filter keep := by
  induction table with
  | nil => rfl
  | cons row rows ih =>
      have tail : (rows.map fun row => if selected row then change row else row).filter keep =
          rows.filter keep := ih fun row member => apart row (List.mem_cons_of_mem _ member)
      cases kept : keep row with
      | false => cases choice : selected row <;> simp [updateWhere, kept, choice, keeps, tail]
      | true => simp [updateWhere, kept, apart row List.mem_cons_self kept, tail]

end SafeCameroon.Table
