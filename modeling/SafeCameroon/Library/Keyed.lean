import SafeCameroon.Library.Table

namespace SafeCameroon.Keyed

open Table

variable {Row Id Key ε : Type} [DecidableEq Id] [DecidableEq Key]

def idByKey (key : Row → Option Key) (id : Row → Id) (wanted : Key) (table : List Row) : Option Id :=
  (table.find? fun row => key row = some wanted).map id

def taken (key : Row → Option Key) (row : Row) (table : List Row) : Bool :=
  (key row).any fun wanted => table.any fun other => key other = some wanted

def insertUnlessTaken (key : Row → Option Key) (insert : Row → List Row → Except ε (List Row))
    (row : Row) (table : List Row) : Except ε (List Row) :=
  if taken key row table then .ok table else insert row table

def reread (key : Row → Option Key) (id : Row → Id) (row : Row) (table : List Row) : Option Id :=
  match key row with
  | none => none
  | some wanted =>
      let existing := idByKey key id wanted table
      if existing ≠ some (id row) then existing else none

def insert (key : Row → Option Key) (id : Row → Id) (add : Row → List Row → Except ε (List Row))
    (row : Row) (table : List Row) : Except ε (Option Id × List Row) := do
  let table ← insertUnlessTaken key add row table
  return (reread key id row table, table)

omit [DecidableEq Id] in
theorem idByKey_some (key : Row → Option Key) (id : Row → Id) (wanted : Key) (table : List Row)
    (found : Id) (h : idByKey key id wanted table = some found) :
    ∃ row ∈ table, key row = some wanted ∧ id row = found := by
  simp only [idByKey, Option.map_eq_some_iff] at h
  obtain ⟨row, stored, same⟩ := h
  exact ⟨row, List.mem_of_find?_eq_some stored, by simpa using List.find?_some stored, same⟩

omit [DecidableEq Id] in
theorem idByKey_none (key : Row → Option Key) (id : Row → Id) (wanted : Key) (table : List Row) :
    idByKey key id wanted table = none ↔ ∀ row ∈ table, key row ≠ some wanted := by
  simp [idByKey]

omit [DecidableEq Id] in
theorem idByKey_between (key : Row → Option Key) (id : Row → Id) (wanted : Key)
    (first between last : List Row) (found : idByKey key id wanted (first ++ last) ≠ none)
    (free : idByKey key id wanted last ≠ none → ∀ row ∈ between, key row ≠ some wanted) :
    idByKey key id wanted (first ++ between ++ last) = idByKey key id wanted (first ++ last) := by
  have split : ∀ left right : List Row, idByKey key id wanted (left ++ right) =
      (idByKey key id wanted left).or (idByKey key id wanted right) := by
    intro left right
    simp only [idByKey, List.find?_append]
    cases left.find? fun row => decide (key row = some wanted) <;> rfl
  rw [split, split, split]
  rw [split] at found
  cases early : idByKey key id wanted first with
  | some value => rfl
  | none =>
      rw [early, Option.none_or] at found
      have absent := (idByKey_none key id wanted between).mpr (free found)
      rw [absent]
      rfl

theorem taken_iff (key : Row → Option Key) (row : Row) (table : List Row) :
    taken key row table = true ↔
      ∃ wanted, key row = some wanted ∧ ∃ other ∈ table, key other = some wanted := by
  cases same : key row <;> simp [taken, same]

def Distinct (key : Row → Option Key) (table : List Row) : Prop := (table.filterMap key).Nodup

theorem distinct_snoc (key : Row → Option Key) (row : Row) (table : List Row)
    (distinct : Distinct key table) (free : taken key row table = false) :
    Distinct key (table ++ [row]) := by
  cases same : key row with
  | none => simpa [Distinct, List.filterMap_append, same] using distinct
  | some wanted =>
      have absent : wanted ∉ table.filterMap key := by
        intro member
        obtain ⟨other, inTable, equal⟩ := List.mem_filterMap.mp member
        have conflict := (taken_iff key row table).mpr ⟨wanted, same, other, inTable, equal⟩
        simp [free] at conflict
      simp only [Distinct, List.filterMap_append, List.filterMap_cons, same, List.filterMap_nil]
      exact List.nodup_append.mpr ⟨distinct, List.nodup_singleton _, by
        intro left member right single equal
        rw [List.mem_singleton] at single
        exact absent (single ▸ equal ▸ member)⟩

inductive Inserted (key : Row → Option Key) (id : Row → Id) (row : Row) (table : List Row) :
    Option Id → List Row → Prop where
  | other {wanted : Key} {existing : Id} (same : key row = some wanted)
      (stored : idByKey key id wanted table = some existing) (differs : existing ≠ id row) :
      Inserted key id row table (some existing) table
  | again {wanted : Key} (same : key row = some wanted)
      (stored : idByKey key id wanted table = some (id row)) : Inserted key id row table none table
  | new (free : taken key row table = false) : Inserted key id row table none (table ++ [row])

theorem insert_ok (key : Row → Option Key) (id : Row → Id)
    (add : Row → List Row → Except ε (List Row)) (row : Row) (table after : List Row)
    (existing : Option Id) (appends : ∀ after, add row table = .ok after → after = table ++ [row])
    (h : insert key id add row table = .ok (existing, after)) :
    Inserted key id row table existing after ∧
      (taken key row table = false → add row table = .ok after) := by
  simp only [insert, bind_ok, pure, Except.pure, Except.ok.injEq, Prod.mk.injEq] at h
  obtain ⟨middle, inserted, seen, rfl⟩ := h
  by_cases conflict : taken key row table = true
  · simp only [insertUnlessTaken, conflict, if_true, Except.ok.injEq] at inserted
    subst inserted
    obtain ⟨wanted, same, other, member, equal⟩ := (taken_iff key row table).mp conflict
    refine ⟨?_, fun free => by simp [conflict] at free⟩
    cases stored : idByKey key id wanted table with
    | none => exact absurd equal ((idByKey_none key id wanted table).mp stored other member)
    | some found =>
        by_cases own : found = id row
        · subst own
          obtain rfl : none = existing := by simpa [reread, same, stored] using seen
          exact .again same stored
        · obtain rfl : some found = existing := by simpa [reread, same, stored, own] using seen
          exact .other same stored own
  · simp only [Bool.not_eq_true] at conflict
    simp only [insertUnlessTaken, conflict, if_false, Bool.false_eq_true] at inserted
    refine ⟨?_, fun _ => inserted⟩
    obtain rfl := appends middle inserted
    have own : reread key id row (table ++ [row]) = none := by
      cases same : key row with
      | none => simp [reread, same]
      | some wanted =>
          have missed : (table.find? fun other => key other = some wanted) = none := by
            rw [List.find?_eq_none]
            intro other member equal
            have clash := (taken_iff key row table).mpr
              ⟨wanted, same, other, member, by simpa using equal⟩
            simp [conflict] at clash
          simp [reread, idByKey, List.find?_append, missed, same]
    rw [own] at seen
    subst seen
    exact .new conflict

end SafeCameroon.Keyed
