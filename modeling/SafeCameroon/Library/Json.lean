import SafeCameroon.Library.Table
import SafeCameroon.Library.Uuid

namespace SafeCameroon

/-- The numbers a JSON document holds: unsigned and negative integers, and floats by their bits. -/
inductive JsonNumber where
  | posInt (value : Nat)
  | negInt (magnitude : Nat)
  | float (bits : Nat)
  deriving DecidableEq, Repr

inductive Json where
  | null
  | bool (value : Bool)
  | number (value : JsonNumber)
  | string (value : String)
  | array (elements : List Json)
  | object (members : List (String × Json))

namespace Json

def uuid (id : Uuid) : Json := .string id.display

def natural (value : Nat) : Json := .number (.posInt value)

def optional {α : Type} (write : α → Json) : Option α → Json
  | none => .null
  | some value => write value

/-- A member of an object; anything else has none. -/
def get (json : Json) (name : String) : Option Json :=
  match json with
  | .object members => (members.find? fun member => member.1 = name).map (·.2)
  | _ => none

def asStr : Json → Option String
  | .string value => some value
  | _ => none

def asBool : Json → Option Bool
  | .bool value => some value
  | _ => none

def asU64 : Json → Option Nat
  | .number (.posInt value) => some value
  | _ => none

def asArray : Json → Option (List Json)
  | .array elements => some elements
  | _ => none

def index (json : Json) (name : String) : Json := (json.get name).getD .null

/-- What may come back from a column that keeps a document but not the order of an object's members;
here for values, arrays of documents, and objects of values. -/
inductive Reordered : Json → Json → Prop where
  | same (json : Json) : Reordered json json
  | array {elements others : List Json} (each : List.Forall₂ Reordered elements others) :
      Reordered (.array elements) (.array others)
  | object {members others : List (String × Json)} (distinct : (members.map (·.1)).Nodup)
      (order : members.Perm others) : Reordered (.object members) (.object others)

theorem Reordered.index {json other : Json} (reordered : Reordered json other) (name : String) :
    other.index name = json.index name := by
  cases reordered with
  | same => rfl
  | array => rfl
  | object distinct order =>
      have found := Table.lookup_perm (·.1) _ _ order distinct name
      simp only [Json.index, get]
      exact congrArg (fun member => (Option.map Prod.snd member).getD .null) found

theorem Reordered.elements {elements : List Json} {other : Json}
    (reordered : Reordered (.array elements) other) :
    ∃ others, other = .array others ∧ List.Forall₂ Reordered elements others := by
  cases reordered with
  | same => exact ⟨elements, rfl, List.forall₂_same.mpr fun element _ => .same element⟩
  | array each => exact ⟨_, rfl, each⟩

end Json

end SafeCameroon
