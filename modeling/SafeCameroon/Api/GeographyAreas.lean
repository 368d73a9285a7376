import Mathlib.Data.String.Basic
import SafeCameroon.Delivery.Jobs
import SafeCameroon.Library.Lowercase
import SafeCameroon.Postgres.Subscribers

namespace SafeCameroon.Access.Subscriptions

open Text

variable (unicode : UnicodeData)

/-- The loop over the areas of a rule: `seen` holds the texts in lower case that it met, `areas` the
first spelling of each. -/
def collectAreas : List GeoArea → List String × List String → List String × List String
  | [], found => found
  | area :: rest, (seen, areas) =>
      if unicode.toLowercase area.text ∈ seen then collectAreas rest (seen, areas)
      else collectAreas rest (unicode.toLowercase area.text :: seen, areas ++ [area.text])

def collectRules : List SubscriptionRule → List String × List String → List String × List String
  | [], found => found
  | .geography areas :: rest, found => collectRules rest (collectAreas unicode areas found)
  | _ :: rest, found => collectRules rest found

def collectSubscriptions : List Subscription → List String × List String → List String × List String
  | [], found => found
  | subscription :: rest, found =>
      collectSubscriptions rest (collectRules unicode subscription.rules found)

/-- The areas that subscribers chose, each once, by their text in lower case. -/
def listGeographyAreas (tie : Uuid → Nat) (db : Db) : List String :=
  let subscriptions := PostgresSubscriptionRepository.listAll tie db
  let (_, areas) := collectSubscriptions unicode subscriptions ([], [])
  areas.insertionSort fun left right => unicode.toLowercase left ≤ unicode.toLowercase right

/-- What the form for an alert sends when these areas are selected. -/
def joinAreas : List String → String
  | [] => ""
  | [area] => area
  | area :: other :: rest => area ++ ", " ++ joinAreas (other :: rest)

section Collecting

/-- What the loops keep: one spelling of every text that was met. -/
structure Collected (met : List GeoArea) (found : List String × List String) : Prop where
  seen : ∀ text, text ∈ found.1 ↔ text ∈ found.2.map unicode.toLowercase
  distinct : (found.2.map unicode.toLowercase).Nodup
  kept : ∀ area ∈ met, ∃ text ∈ found.2, unicode.toLowercase text = unicode.toLowercase area.text
  chosen : ∀ text ∈ found.2, ∃ area ∈ met, area.text = text

def ruleAreas : SubscriptionRule → List GeoArea
  | .geography areas => areas
  | _ => []

theorem collectAreas_collected (areas met : List GeoArea) (found : List String × List String)
    (before : Collected unicode met found) :
    Collected unicode (met ++ areas) (collectAreas unicode areas found) := by
  induction areas generalizing met found with
  | nil => simpa [collectAreas] using before
  | cons area rest ih =>
      obtain ⟨seen, kept⟩ := found
      have step : ∀ next, Collected unicode (met ++ [area]) next →
          Collected unicode (met ++ area :: rest) (collectAreas unicode rest next) := by
        intro next collected
        have later := ih (met ++ [area]) next collected
        rwa [List.append_assoc, List.singleton_append] at later
      simp only [collectAreas]
      split
      · rename_i old
        apply step
        obtain ⟨text, member, same⟩ := List.mem_map.mp ((before.seen _).mp old)
        refine ⟨before.seen, before.distinct, ?_, ?_⟩
        · intro other among
          rcases List.mem_append.mp among with earlier | last
          · exact before.kept other earlier
          · obtain rfl := List.mem_singleton.mp last
            exact ⟨text, member, same⟩
        · intro text member
          obtain ⟨other, among, spelled⟩ := before.chosen text member
          exact ⟨other, List.mem_append_left _ among, spelled⟩
      · rename_i new
        apply step
        refine ⟨?_, ?_, ?_, ?_⟩
        · intro text
          have earlier := before.seen text
          simp only [List.mem_cons, List.map_append, List.mem_append, List.map_cons, List.map_nil,
            List.not_mem_nil, or_false] at earlier ⊢
          rw [earlier, or_comm]
        · rw [List.map_append]
          exact Table.nodup_snoc _ _ before.distinct fun member => new ((before.seen _).mpr member)
        · intro other among
          rcases List.mem_append.mp among with earlier | last
          · obtain ⟨text, member, same⟩ := before.kept other earlier
            exact ⟨text, List.mem_append_left _ member, same⟩
          · obtain rfl := List.mem_singleton.mp last
            exact ⟨_, List.mem_append_right _ (List.mem_singleton.mpr rfl), rfl⟩
        · intro text member
          rcases List.mem_append.mp member with earlier | last
          · obtain ⟨other, among, spelled⟩ := before.chosen text earlier
            exact ⟨other, List.mem_append_left _ among, spelled⟩
          · exact ⟨area, List.mem_append_right _ (List.mem_singleton.mpr rfl),
              (List.mem_singleton.mp last).symm⟩

theorem collectRules_collected (rules : List SubscriptionRule) (met : List GeoArea)
    (found : List String × List String) (before : Collected unicode met found) :
    Collected unicode (met ++ rules.flatMap ruleAreas) (collectRules unicode rules found) := by
  induction rules generalizing met found with
  | nil => simpa [collectRules] using before
  | cons rule rest ih =>
      rw [List.flatMap_cons, ← List.append_assoc]
      cases rule with
      | geography areas => exact ih _ _ (collectAreas_collected unicode areas met found before)
      | _ => simpa [collectRules, ruleAreas] using ih met found before

theorem collectSubscriptions_collected (subscriptions : List Subscription) (met : List GeoArea)
    (found : List String × List String) (before : Collected unicode met found) :
    Collected unicode (met ++ subscriptions.flatMap fun subscription =>
      subscription.rules.flatMap ruleAreas) (collectSubscriptions unicode subscriptions found) := by
  induction subscriptions generalizing met found with
  | nil => simpa [collectSubscriptions] using before
  | cons subscription rest ih =>
      rw [List.flatMap_cons, ← List.append_assoc]
      exact ih _ _ (collectRules_collected unicode subscription.rules met found before)

end Collecting

section Joining

theorem joinAreas_around (selected : List String) (area : String) (member : area ∈ selected) :
    ∃ front back, (joinAreas selected).toList = front ++ area.toList ++ back ∧
      (∀ c ∈ front.reverse.head?, c = ' ') ∧ ∀ c ∈ back.head?, c = ',' := by
  induction selected with
  | nil => cases member
  | cons first rest ih =>
      cases rest with
      | nil =>
          obtain rfl := List.mem_singleton.mp member
          exact ⟨[], [], by simp [joinAreas], by simp, by simp⟩
      | cons other rest =>
          have spelled : (joinAreas (first :: other :: rest)).toList =
              first.toList ++ [',', ' '] ++ (joinAreas (other :: rest)).toList := by
            simp [joinAreas]
          rcases List.mem_cons.mp member with rfl | later
          · refine ⟨[], [',', ' '] ++ (joinAreas (other :: rest)).toList, ?_, by simp, by simp⟩
            rw [spelled, List.nil_append, List.append_assoc]
          · obtain ⟨front, back, whole, left, right⟩ := ih later
            refine ⟨first.toList ++ [',', ' '] ++ front, back, ?_, ?_, right⟩
            · rw [spelled, whole]
              simp only [List.append_assoc]
            · intro c head
              cases reversed : front.reverse with
              | nil =>
                  rw [List.reverse_append, reversed] at head
                  simpa [eq_comm] using head
              | cons last others =>
                  apply left
                  rw [List.reverse_append, reversed] at head
                  rw [reversed]
                  exact head

/-- Areas are not white space at either end, and so neither are several in a row. -/
theorem joinAreas_bare (selected : List String) (some : selected ≠ [])
    (areas : ∀ text ∈ selected, ∃ area : GeoArea, area.text = text) :
    Bare (joinAreas selected).toList ∧ (joinAreas selected).toList ≠ [] := by
  have single : ∀ text ∈ selected, Bare text.toList ∧ text.toList ≠ [] := by
    intro text member
    obtain ⟨area, rfl⟩ := areas text member
    constructor
    · apply bare_of_trimChars
      have same := congrArg String.toList area.trimmed
      rwa [trim, String.toList_ofList] at same
    · intro empty
      exact area.nonblank (String.toList_eq_nil_iff.mp empty)
  induction selected with
  | nil => exact absurd rfl some
  | cons first rest ih =>
      obtain ⟨bare, nonempty⟩ := single first List.mem_cons_self
      cases rest with
      | nil => exact ⟨bare, nonempty⟩
      | cons other rest =>
          have later := ih (by simp) (fun text member => areas text (List.mem_cons_of_mem _ member))
            (fun text member => single text (List.mem_cons_of_mem _ member))
          have spelled : (joinAreas (first :: other :: rest)).toList =
              first.toList ++ [',', ' '] ++ (joinAreas (other :: rest)).toList := by
            simp [joinAreas]
          rw [spelled]
          exact ⟨bare_between _ _ _ bare later.1 nonempty later.2, by simp⟩

theorem targetGeography_joinAreas (selected : List String) (some : selected ≠ [])
    (areas : ∀ text ∈ selected, ∃ area : GeoArea, area.text = text) :
    ∃ target, TargetGeography.new (joinAreas selected) = .ok target ∧
      target.text = joinAreas selected := by
  obtain ⟨bare, nonempty⟩ := joinAreas_bare selected some areas
  have trimmed : trim (joinAreas selected) = joinAreas selected := by
    rw [trim, trimChars_bare _ bare, String.ofList_toList]
  have visible : joinAreas selected ≠ "" := by
    intro blank
    exact nonempty (by rw [blank]; rfl)
  refine ⟨{ text := joinAreas selected, trimmed, nonblank := visible }, ?_, rfl⟩
  simp [TargetGeography.new, trimmed, visible]

/-- Neither character of the separator has to do with the case of the letters around it. -/
structure JoinsWords : Prop where
  comma : unicode.Separates ','
  space : unicode.Separates ' '

theorem joinAreas_contains (words : JoinsWords unicode) (selected : List String) (area : String)
    (member : area ∈ selected) :
    contains (unicode.toLowercase (joinAreas selected)) (unicode.toLowercase area) = true := by
  obtain ⟨front, back, spelled, left, right⟩ := joinAreas_around selected area member
  have part := unicode.lowerChars_infix front area.toList back
    (fun c head => left c head ▸ words.space) (fun c head => right c head ▸ words.comma)
  simp only [contains, UnicodeData.toLowercase, spelled, String.toList_ofList, decide_eq_true_eq]
  exact part

end Joining

theorem listGeographyAreas_sorted (tie : Uuid → Nat) (db : Db) :
    (listGeographyAreas unicode tie db).Pairwise
      fun left right => unicode.toLowercase left ≤ unicode.toLowercase right := by
  have total : Std.Total fun left right => unicode.toLowercase left ≤ unicode.toLowercase right :=
    ⟨fun left right => le_total _ _⟩
  have trans : IsTrans String fun left right => unicode.toLowercase left ≤ unicode.toLowercase right :=
    ⟨fun _ _ _ first second => le_trans first second⟩
  exact List.pairwise_insertionSort _ _

/-- The areas on offer are one spelling each of those that subscribers chose, in order; and an alert
for a selection of them reaches everybody who chose one that is selected. -/
theorem selected_areas_reach_subscribers (words : JoinsWords unicode) (tie : Uuid → Nat) (db : Db) :
    ((listGeographyAreas unicode tie db).map unicode.toLowercase).Nodup ∧
    ((listGeographyAreas unicode tie db).map unicode.toLowercase).Pairwise (· ≤ ·) ∧
    (∀ row ∈ db.subscriptions, ∀ areas, .geography areas ∈ row.subscription.rules →
      ∀ area ∈ areas, ∃ text ∈ listGeographyAreas unicode tie db,
        unicode.toLowercase text = unicode.toLowercase area.text) ∧
    ∀ selected, selected ≠ [] → (∀ text ∈ selected, text ∈ listGeographyAreas unicode tie db) →
      ∃ target, TargetGeography.new (joinAreas selected) = .ok target ∧
        ∀ alert : Alert, alert.targetGeography = target →
          ∀ areas, ∀ area ∈ areas, (∃ text ∈ selected,
            unicode.toLowercase text = unicode.toLowercase area.text) →
              (evaluateRule unicode (.geography areas) alert).matched = true := by
  have start : Collected unicode [] ([], []) :=
    { seen := by simp, distinct := by simp, kept := by simp, chosen := by simp }
  have collected := collectSubscriptions_collected unicode
    (PostgresSubscriptionRepository.listAll tie db) [] ([], []) start
  have order := List.perm_insertionSort
    (fun left right => unicode.toLowercase left ≤ unicode.toLowercase right)
    (collectSubscriptions unicode (PostgresSubscriptionRepository.listAll tie db) ([], [])).2
  have listed : ∀ text, text ∈ listGeographyAreas unicode tie db ↔
      text ∈ (collectSubscriptions unicode (PostgresSubscriptionRepository.listAll tie db)
        ([], [])).2 := fun text => order.mem_iff
  refine ⟨?_, ?_, ?_, ?_⟩
  · exact (order.map unicode.toLowercase).nodup_iff.mpr collected.distinct
  · rw [List.pairwise_map]
    exact listGeographyAreas_sorted unicode tie db
  · intro row stored areas rule area member
    have met : area ∈ [] ++ (PostgresSubscriptionRepository.listAll tie db).flatMap
        fun subscription => subscription.rules.flatMap ruleAreas := by
      rw [List.nil_append, List.mem_flatMap]
      refine ⟨row.subscription, ?_, List.mem_flatMap.mpr ⟨_, rule, member⟩⟩
      simp only [PostgresSubscriptionRepository.listAll, List.mem_map, Table.mem_orderBy]
      exact ⟨row, stored, rfl⟩
    obtain ⟨text, kept, same⟩ := collected.kept area met
    exact ⟨text, (listed text).mpr kept, same⟩
  · intro selected some offered
    have chosen : ∀ text ∈ selected, ∃ area : GeoArea, area.text = text := by
      intro text member
      obtain ⟨area, _, same⟩ := collected.chosen text ((listed text).mp (offered text member))
      exact ⟨area, same⟩
    obtain ⟨target, accepted, spelled⟩ := targetGeography_joinAreas selected some chosen
    refine ⟨target, accepted, ?_⟩
    intro alert aimed areas area member wanted
    obtain ⟨text, among, same⟩ := wanted
    have reached : area.matchesTarget unicode alert.targetGeography = true := by
      rw [GeoArea.matchesTarget, aimed, spelled, ← same]
      exact joinAreas_contains unicode words selected text among
    simp only [evaluateRule, List.any_eq_true]
    exact ⟨area, member, reached⟩

/-- Two subscribers who chose the same town, each spelling it in their own way, and one elsewhere. -/
def coastDb : Db :=
  let area := fun (text : String) (trimmed : trim text = text) (nonblank : text ≠ "") =>
    ({ text, trimmed, nonblank } : GeoArea)
  let row := fun (id : Uuid) (area : GeoArea) =>
    ({ subscription := { id := ⟨id⟩, consumerId := ⟨id⟩, version := 1, rules := [.geography [area]]
                         nonempty := by simp }
       createdAt := id.val } : SubscriptionRow)
  { Db.empty with subscriptions :=
    [row 1 (area "Limbe" (by decide) (by decide)), row 2 (area "LIMBE" (by decide) (by decide)),
     row 3 (area "Buea" (by decide) (by decide))] }

theorem selected_areas_reach_limbe : ∃ target,
    TargetGeography.new (joinAreas ["Limbe", "Buea"]) = .ok target ∧
      ∀ alert : Alert, alert.targetGeography = target → ∀ area : GeoArea, area.text = "LIMBE" →
        (evaluateRule UnicodeData.ascii (.geography [area]) alert).matched = true := by
  have words : JoinsWords UnicodeData.ascii := ⟨⟨rfl, rfl⟩, ⟨rfl, rfl⟩⟩
  obtain ⟨_, _, _, reach⟩ :=
    selected_areas_reach_subscribers UnicodeData.ascii words (fun _ => 0) coastDb
  obtain ⟨target, accepted, matched⟩ := reach ["Limbe", "Buea"] (by simp) (by decide)
  refine ⟨target, accepted, ?_⟩
  intro alert aimed area spelled
  exact matched alert aimed [area] area (List.mem_singleton.mpr rfl)
    ⟨"Limbe", List.mem_cons_self, by rw [spelled]; decide⟩

end SafeCameroon.Access.Subscriptions
