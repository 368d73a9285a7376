import Mathlib.Data.List.Perm.Basic
import SafeCameroon.Library.Table

namespace SafeCameroon.Paging

open Table

variable {Row Key : Type} (column : Row → Nat)

/-- An order that a query may answer in: the greatest values first, equal ones as they come. -/
structure Falling (rows result : List Row) : Prop where
  rows : result.Perm rows
  sorted : result.Pairwise fun earlier later => column later ≤ column earlier

def page (limit offset : Nat) (rows : List Row) : List Row := (rows.drop offset).take limit

/-- The first pages, each out of the order that its own query chose. -/
def pages (limit count : Nat) (orders : Nat → List Row) : List Row :=
  (List.range count).flatMap fun number => page limit (number * limit) (orders number)

theorem page_append_full (limit offset : Nat) (seen rest : List Row)
    (full : (page limit offset seen).length = limit) :
    page limit offset (seen ++ rest) = page limit offset seen := by
  have enough : limit ≤ (seen.drop offset).length := by
    rw [page, List.length_take] at full
    omega
  rw [page, page, List.drop_append]
  exact List.take_append_of_le_length enough

/-- A row after a page that is not full joins it, unless it is still skipped. -/
theorem page_append_row (limit offset : Nat) (seen : List Row) (row : Row)
    (short : (page limit offset seen).length < limit) :
    page limit offset (seen ++ [row]) =
      if offset ≤ seen.length then page limit offset seen ++ [row] else page limit offset seen := by
  have few : (seen.drop offset).length < limit := by
    rw [page, List.length_take] at short
    omega
  split
  · rename_i reached
    have none : offset - seen.length = 0 := by omega
    rw [page, page, List.drop_append, none, List.drop_zero,
      List.take_of_length_le (Nat.le_of_lt few), List.take_of_length_le]
    rw [List.length_append, List.length_singleton]
    omega
  · rename_i skipped
    have past : (seen ++ [row]).length ≤ offset := by
      rw [List.length_append, List.length_singleton]
      omega
    have before : seen.length ≤ offset := by omega
    rw [page, page, List.drop_eq_nil_of_le past, List.drop_eq_nil_of_le before]

theorem mem_page (limit offset place : Nat) (rows : List Row) (row : Row) (onPage : place < limit)
    (there : rows[offset + place]? = some row) : row ∈ page limit offset rows := by
  apply List.mem_of_getElem? (i := place)
  rw [page, List.getElem?_take_of_lt onPage, List.getElem?_drop]
  exact there

/-- No page ends among rows of one value: a boundary leaves all of them in front of it or behind. -/
def Parted (limit : Nat) (rows : List Row) : Prop :=
  ∀ row ∈ rows, ∀ number, number * limit ≤ rows.countP (column row < column ·) ∨
    rows.countP (column row ≤ column ·) ≤ number * limit

section Parted

variable (limit : Nat) (rows : List Row)

theorem take_countP (value : Nat) (result : List Row)
    (sorted : result.Pairwise fun earlier later => column later ≤ column earlier) :
    result.take (result.countP (value < column ·)) = result.filter (value < column ·) := by
  induction result with
  | nil => rfl
  | cons row rest ih =>
      rw [List.pairwise_cons] at sorted
      by_cases above : value < column row
      · have tail := ih sorted.2
        simp only [List.countP_cons, List.filter_cons, above, decide_true, if_true,
          List.take_succ_cons, tail]
      · have below : ∀ other ∈ row :: rest, ¬ value < column other := by
          intro other member
          rcases List.mem_cons.mp member with rfl | later
          · exact above
          · have smaller := sorted.1 other later
            omega
        have none : (row :: rest).filter (value < column ·) = [] := by
          rw [List.filter_eq_nil_iff]
          intro other member
          simpa using below other member
        have zero : (row :: rest).countP (value < column ·) = 0 := by
          rw [List.countP_eq_length_filter, none]
          rfl
        rw [zero, none, List.take_zero]

theorem countP_above (result : List Row)
    (sorted : result.Pairwise fun earlier later => column later ≤ column earlier) (place : Nat)
    (inside : place < result.length) : result.countP (column result[place] < column ·) ≤ place := by
  have pairs := List.pairwise_iff_getElem.mp sorted
  have behind : (result.drop place).countP (column result[place] < column ·) = 0 := by
    rw [List.countP_eq_zero]
    intro other member above
    obtain ⟨index, bound, rfl⟩ := List.mem_iff_getElem.mp member
    rw [List.getElem_drop, decide_eq_true_eq] at above
    rw [List.length_drop] at bound
    by_cases first : index = 0
    · subst first
      simp only [Nat.add_zero] at above
      omega
    · have order := pairs place (place + index) inside (by omega) (by omega)
      omega
  calc result.countP (column result[place] < column ·)
      = (result.take place ++ result.drop place).countP (column result[place] < column ·) := by
        rw [List.take_append_drop]
    _ = (result.take place).countP (column result[place] < column ·) := by
        rw [List.countP_append, behind, Nat.add_zero]
    _ ≤ (result.take place).length := List.countP_le_length
    _ ≤ place := by simp

theorem countP_reached (result : List Row)
    (sorted : result.Pairwise fun earlier later => column later ≤ column earlier) (place : Nat)
    (inside : place < result.length) : place < result.countP (column result[place] ≤ column ·) := by
  have pairs := List.pairwise_iff_getElem.mp sorted
  have all : (result.take (place + 1)).countP (column result[place] ≤ column ·) =
      (result.take (place + 1)).length := by
    rw [List.countP_eq_length]
    intro other member
    obtain ⟨index, bound, rfl⟩ := List.mem_iff_getElem.mp member
    rw [List.length_take] at bound
    rw [List.getElem_take, decide_eq_true_eq]
    by_cases last : index = place
    · subst last
      exact le_refl _
    · exact pairs index place (by omega) inside (by omega)
  have part : (result.take (place + 1)).countP (column result[place] ≤ column ·) ≤
      result.countP (column result[place] ≤ column ·) := (List.take_sublist _ _).countP_le
  rw [all, List.length_take] at part
  omega

/-- Where no page ends among equals, what stands in front of its end does not depend on the query. -/
theorem take_boundary (parted : Parted column limit rows) (first second : List Row)
    (left : Falling column rows first) (right : Falling column rows second) (number : Nat) :
    (first.take (number * limit)).Perm (second.take (number * limit)) := by
  by_cases inside : number * limit < first.length
  · have member : first[number * limit] ∈ rows := left.rows.subset (List.getElem_mem inside)
    have above := countP_above column first left.sorted (number * limit) inside
    have reached := countP_reached column first left.sorted (number * limit) inside
    have either := parted _ member number
    rw [left.rows.countP_eq] at above reached
    have exact : rows.countP (column first[number * limit] < column ·) = number * limit := by omega
    have one := take_countP column (column first[number * limit]) first left.sorted
    have two := take_countP column (column first[number * limit]) second right.sorted
    rw [left.rows.countP_eq, exact] at one
    rw [right.rows.countP_eq, exact] at two
    rw [one, two]
    exact (left.rows.trans right.rows.symm).filter _
  · have same : first.length = second.length := (left.rows.trans right.rows.symm).length_eq
    rw [List.take_of_length_le (by omega), List.take_of_length_le (by omega)]
    exact left.rows.trans right.rows.symm

theorem page_perm (parted : Parted column limit rows) (first second : List Row)
    (left : Falling column rows first) (right : Falling column rows second) (number : Nat) :
    (page limit (number * limit) first).Perm (page limit (number * limit) second) := by
  have front := take_boundary column limit rows parted first second left right number
  have whole := take_boundary column limit rows parted first second left right (number + 1)
  have split : ∀ result : List Row, result.take ((number + 1) * limit) =
      result.take (number * limit) ++ page limit (number * limit) result := by
    intro result
    rw [Nat.add_mul, Nat.one_mul, List.take_add]
    rfl
  rw [split, split] at whole
  exact (List.perm_append_left_iff _).mp ((front.symm.append_right _).trans whole)

theorem pages_same (count : Nat) (result : List Row) :
    pages limit count (fun _ => result) = result.take (count * limit) := by
  induction count with
  | zero => simp [pages]
  | succ count ih =>
      rw [pages, List.range_succ, List.flatMap_append, List.flatMap_singleton, Nat.add_mul, Nat.one_mul,
        List.take_add, ← ih]
      rfl

theorem pages_perm (parted : Parted column limit rows) (count : Nat)
    (enough : rows.length ≤ count * limit) (orders : Nat → List Row)
    (falling : ∀ number, Falling column rows (orders number)) :
    (pages limit count orders).Perm rows := by
  have each : (pages limit count orders).Perm (pages limit count fun _ => orders 0) := by
    apply List.Perm.flatMap_left
    intro number _
    exact page_perm column limit rows parted _ _ (falling number) (falling 0) number
  have whole : pages limit count (fun _ => orders 0) = orders 0 := by
    rw [pages_same, List.take_of_length_le]
    rw [(falling 0).rows.length_eq]
    exact enough
  rw [whole] at each
  exact each.trans (falling 0).rows

end Parted

section Straddled

variable (limit : Nat) (rows : List Row)

theorem exists_falling (rows : List Row) : ∃ result, Falling column rows result := by
  have total : Std.Total fun earlier later : Row => column later ≤ column earlier :=
    ⟨fun earlier later => Nat.le_total _ _⟩
  have trans : IsTrans Row fun earlier later => column later ≤ column earlier :=
    ⟨fun _ _ _ first second => Nat.le_trans second first⟩
  exact ⟨_, List.perm_insertionSort _ rows, List.pairwise_insertionSort _ rows⟩

theorem exists_falling_at (row : Row) (member : row ∈ rows) (place : Nat)
    (above : rows.countP (column row < column ·) ≤ place)
    (below : place < rows.countP (column row ≤ column ·)) :
    ∃ result, Falling column rows result ∧ result[place]? = some row := by
  -- The rows fall into those above the row, its equals and those below it.
  have split := List.filter_append_perm (fun other => decide (column row < column other)) rows
  have rest := List.filter_append_perm (fun other => decide (column row ≤ column other))
    (rows.filter fun other => !decide (column row < column other))
  obtain ⟨high, ⟨highRows, highSorted⟩⟩ :=
    exists_falling column (rows.filter fun other => decide (column row < column other))
  obtain ⟨low, ⟨lowRows, lowSorted⟩⟩ := exists_falling column
    ((rows.filter fun other => !decide (column row < column other)).filter
      fun other => !decide (column row ≤ column other))
  have whole : (high ++ ((rows.filter fun other => !decide (column row < column other)).filter
      (fun other => decide (column row ≤ column other)) ++ low)).Perm rows := by
    exact ((highRows.append ((List.Perm.append_left _ lowRows).trans rest))).trans split
  have equal : row ∈ (rows.filter fun other => !decide (column row < column other)).filter
      fun other => decide (column row ≤ column other) := by
    simp [member]
  obtain ⟨front, back, spelled⟩ := List.append_of_mem equal
  have highAbove : ∀ other ∈ high, column row < column other := by
    intro other listed
    have filtered := highRows.subset listed
    simpa using (List.mem_filter.mp filtered).2
  have lowBelow : ∀ other ∈ low, column other < column row := by
    intro other listed
    have filtered := lowRows.subset listed
    simpa using (List.mem_filter.mp filtered).2
  have same : ∀ other ∈ front ++ row :: back, column other = column row := by
    intro other listed
    rw [← spelled] at listed
    simp only [List.mem_filter, Bool.not_eq_true', decide_eq_false_iff_not, decide_eq_true_eq] at listed
    omega
  rw [spelled] at whole
  have sizeAbove : rows.countP (column row < column ·) = high.length := by
    rw [List.countP_eq_length_filter]
    exact highRows.length_eq.symm
  have sizeReached : rows.countP (column row ≤ column ·) =
      high.length + (front ++ back).length + 1 := by
    have first : high.countP (column row ≤ column ·) = high.length :=
      List.countP_eq_length.mpr fun other listed => decide_eq_true (highAbove other listed).le
    have second : (front ++ row :: back).countP (column row ≤ column ·) =
        (front ++ row :: back).length :=
      List.countP_eq_length.mpr fun other listed => decide_eq_true (same other listed).ge
    have third : low.countP (column row ≤ column ·) = 0 :=
      List.countP_eq_zero.mpr fun other listed reached =>
        absurd (of_decide_eq_true reached) (Nat.not_le_of_lt (lowBelow other listed))
    rw [← whole.countP_eq, List.countP_append, List.countP_append, first, second, third]
    simp only [List.length_append, List.length_cons]
    omega
  have equals : ((front ++ back).take (place - high.length) ++
      row :: (front ++ back).drop (place - high.length)).Perm (front ++ row :: back) := by
    refine List.perm_middle.trans (List.Perm.trans ?_ List.perm_middle.symm)
    rw [List.take_append_drop]
  refine ⟨high ++ (((front ++ back).take (place - high.length) ++
    row :: (front ++ back).drop (place - high.length)) ++ low), ⟨?_, ?_⟩, ?_⟩
  · exact ((equals.append_right low).append_left high).trans whole
  · have level : ∀ other ∈ (front ++ back).take (place - high.length) ++
        row :: (front ++ back).drop (place - high.length), column other = column row :=
      fun other listed => same other (equals.subset listed)
    rw [List.pairwise_append, List.pairwise_append]
    refine ⟨highSorted, ⟨?_, lowSorted, ?_⟩, ?_⟩
    · apply List.pairwise_of_forall_mem_list
      intro other listed later behind
      rw [level other listed, level later behind]
    · intro other listed later behind
      have one := level other listed
      have two := lowBelow later behind
      omega
    · intro other listed later behind
      have one := highAbove other listed
      rcases List.mem_append.mp behind with among | behind
      · have two := level later among
        omega
      · have two := lowBelow later behind
        omega
  · have taken : ((front ++ back).take (place - high.length)).length = place - high.length := by
      rw [List.length_take]
      omega
    rw [List.getElem?_append_right (by omega), List.append_assoc,
      List.getElem?_append_right (by omega), taken, Nat.sub_self]
    rfl

/-- Where a page ends among equals, one of them can be on that page and on the next one too. -/
theorem parted_of_pages (distinct : rows.Nodup) (positive : 0 < limit) (count : Nat)
    (enough : rows.length ≤ count * limit)
    (once : ∀ orders, (∀ number, Falling column rows (orders number)) →
      (pages limit count orders).Perm rows) : Parted column limit rows := by
  intro row member number
  by_contra straddled
  rw [not_or, Nat.not_le, Nat.not_le] at straddled
  have bound : rows.countP (column row ≤ column ·) ≤ rows.length := List.countP_le_length
  cases number with
  | zero => omega
  | succ number =>
      have expanded : (number + 1) * limit = number * limit + limit := by
        rw [Nat.add_mul, Nat.one_mul]
      obtain ⟨early, earlyFalling, last⟩ := exists_falling_at column rows row member
        ((number + 1) * limit - 1) (by omega) (by omega)
      obtain ⟨late, lateFalling, first⟩ := exists_falling_at column rows row member
        ((number + 1) * limit) (by omega) (by omega)
      have twice := once (fun query => if query = number then early else late) (by
        intro query
        split
        · exact earlyFalling
        · exact lateFalling)
      have disjoint := (List.nodup_flatMap.mp (twice.nodup_iff.mpr distinct)).2
      have listed : number + 1 < count := by
        by_contra beyond
        have short := Nat.mul_le_mul_right limit (Nat.le_of_not_lt beyond)
        omega
      have apart := (List.pairwise_iff_getElem.mp disjoint) number (number + 1)
        (by rw [List.length_range]; omega) (by rw [List.length_range]; exact listed) (by omega)
      simp only [List.getElem_range, Function.onFun, if_true, Nat.succ_ne_self, if_false] at apart
      have onPage : row ∈ page limit (number * limit) early :=
        mem_page limit _ (limit - 1) early row (by omega) (by
          rw [← last]
          congr 1
          omega)
      have onNext : row ∈ page limit ((number + 1) * limit) late :=
        mem_page limit _ 0 late row positive first
      exact apart onPage onNext

end Straddled

/-- Pages hold every row once, whatever order each query takes, exactly when none ends among equals. -/
theorem pages_perm_iff (limit : Nat) (rows : List Row) (distinct : rows.Nodup) (positive : 0 < limit)
    (count : Nat) (enough : rows.length ≤ count * limit) :
    (∀ orders, (∀ number, Falling column rows (orders number)) →
      (pages limit count orders).Perm rows) ↔ Parted column limit rows := by
  constructor
  · exact parted_of_pages column limit rows distinct positive count enough
  · intro parted orders falling
    exact pages_perm column limit rows parted count enough orders falling

section Ties

variable [DecidableEq Key] (key : Row → Key)

/-- The rows by falling values; equal ones come in the order that the tie chooses. -/
def recent (tie : Key → Nat) (rows : List Row) : List Row :=
  (orderBy column (fun row => tie (key row)) rows).reverse

theorem orderBy_sorted (tie : Row → Nat) (rows : List Row) :
    (orderBy column tie rows).Pairwise fun left right =>
      column left < column right ∨ (column left = column right ∧ tie left ≤ tie right) := by
  have total : Std.Total fun left right : Row =>
      column left < column right ∨ (column left = column right ∧ tie left ≤ tie right) :=
    ⟨fun left right => by omega⟩
  have trans : IsTrans Row fun left right =>
      column left < column right ∨ (column left = column right ∧ tie left ≤ tie right) :=
    ⟨fun first second third one two => by omega⟩
  exact List.pairwise_insertionSort _ rows

omit [DecidableEq Key] in
theorem recent_falling (tie : Key → Nat) (rows : List Row) :
    Falling column rows (recent column key tie rows) := by
  constructor
  · exact (List.reverse_perm _).trans (orderBy_perm _ _ rows)
  · rw [recent, List.pairwise_reverse]
    apply (orderBy_sorted column _ rows).imp
    intro left right order
    omega

theorem exists_tie (rows : List Row) (distinct : (rows.map key).Nodup) (result : List Row)
    (falling : Falling column rows result) : ∃ tie, recent column key tie rows = result := by
  have back : (result.reverse.map key).Nodup :=
    (((List.reverse_perm result).trans falling.rows).map key).nodup_iff.mpr distinct
  have places : ∀ place (inside : place < result.reverse.length),
      (result.reverse.map key).idxOf (key result.reverse[place]) = place := by
    intro place inside
    have found := back.idxOf_getElem place (by rwa [List.length_map])
    rwa [List.getElem_map] at found
  have sorted : result.reverse.Pairwise fun left right => column left < column right ∨
      (column left = column right ∧ (result.reverse.map key).idxOf (key left) ≤
        (result.reverse.map key).idxOf (key right)) := by
    have rising : result.reverse.Pairwise fun left right => column left ≤ column right := by
      rw [List.pairwise_reverse]
      exact falling.sorted
    rw [List.pairwise_iff_getElem] at rising ⊢
    intro first second one two order
    have step := rising first second one two order
    rw [places first one, places second two]
    omega
  refine ⟨(result.reverse.map key).idxOf, ?_⟩
  have same : orderBy column (fun row => (result.reverse.map key).idxOf (key row)) rows =
      result.reverse := by
    apply List.Perm.eq_of_pairwise _ (orderBy_sorted column _ rows) sorted
      ((orderBy_perm _ _ rows).trans ((List.reverse_perm result).trans falling.rows).symm)
    intro left right leftIn rightIn one two
    have level : (result.reverse.map key).idxOf (key left) =
        (result.reverse.map key).idxOf (key right) := by omega
    have inRows : left ∈ rows := (mem_orderBy _ _ _ _).mp leftIn
    have listed : left ∈ result.reverse :=
      ((List.reverse_perm result).trans falling.rows).symm.subset inRows
    have keys : key left = key right :=
      (List.idxOf_inj (List.mem_map.mpr ⟨left, listed, rfl⟩)).mp level
    have other : right ∈ rows := ((List.reverse_perm result).trans falling.rows).subset rightIn
    exact eq_of_key key rows distinct left right inRows other keys
  rw [recent, same, List.reverse_reverse]

theorem perm_of_keys (rows result : List Row) (distinct : (rows.map key).Nodup)
    (stored : ∀ row ∈ result, row ∈ rows) (same : (result.map key).Perm (rows.map key)) :
    result.Perm rows := by
  have back : ∀ part : List Row, (∀ row ∈ part, row ∈ rows) →
      (part.map key).filterMap (fun wanted => lookup key wanted rows) = part := by
    intro part among
    induction part with
    | nil => rfl
    | cons row rest ih =>
        have found := lookup_mem key rows distinct row (among row List.mem_cons_self)
        rw [List.map_cons, List.filterMap_cons, found,
          ih fun other member => among other (List.mem_cons_of_mem _ member)]
  have looked := same.filterMap fun wanted => lookup key wanted rows
  rwa [back result stored, back rows fun _ member => member] at looked

theorem recent_pages_iff (limit : Nat) (rows : List Row) (distinct : (rows.map key).Nodup)
    (positive : 0 < limit) (count : Nat) (enough : rows.length ≤ count * limit) :
    (∀ ties : Nat → Key → Nat, ((List.range count).flatMap fun number =>
      (page limit (number * limit) (recent column key (ties number) rows)).map key).Perm
        (rows.map key)) ↔ Parted column limit rows := by
  have keys : ∀ orders : Nat → List Row, ((List.range count).flatMap fun number =>
      (page limit (number * limit) (orders number)).map key) = (pages limit count orders).map key :=
    fun orders => (List.map_flatMap ..).symm
  have iff := pages_perm_iff column limit rows (List.Nodup.of_map key distinct) positive count enough
  constructor
  · intro once
    apply iff.mp
    intro orders falling
    choose ties chosen using fun number =>
      exists_tie column key rows distinct (orders number) (falling number)
    have named := once ties
    rw [keys] at named
    simp only [chosen] at named
    apply perm_of_keys key rows _ distinct _ named
    intro row member
    obtain ⟨number, _, onPage⟩ := List.mem_flatMap.mp member
    exact (falling number).rows.subset (List.mem_of_mem_drop (List.mem_of_mem_take onPage))
  · intro parted ties
    rw [keys]
    exact (iff.mpr parted _ fun number => recent_falling column key (ties number) rows).map key

end Ties

end SafeCameroon.Paging
