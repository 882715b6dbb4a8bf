import FederatedSearch.Decimal.Precision

/-!
Documents: the nested values in which requests, records, settings and query trees
are exchanged. A table has each key once, in the order of first appearance.
-/

namespace FederatedSearch

/-- A number as it is written in a document: integers of 64 bits are kept exactly, all
others as the nearest double. -/
inductive Numeral where
  | natural (n : Nat)
  | negative (n : Nat)
  | real (x : Float)

def Numeral.toFloat : Numeral → Float
  | .natural n => Float.ofNat n
  | .negative n => -Float.ofNat n
  | .real x => x

def Numeral.toFloat32 : Numeral → Float32
  | .natural n => Float32.ofNat n
  | .negative n => -Float32.ofNat n
  | .real x => toSingle x

inductive Document where
  | null
  | bool (value : Bool)
  | number (value : Numeral)
  | text (value : String)
  | list (items : List Document)
  | table (entries : List (String × Document))
deriving Inhabited

namespace Document

def find? {α : Type} (key : String) : List (String × α) → Option α
  | [] => none
  | (name, value) :: rest => if name = key then some value else find? key rest

/-- Sets the value of a key: in place if the key is there, else at the end. -/
def put {α : Type} (key : String) (value : α) : List (String × α) → List (String × α)
  | [] => [(key, value)]
  | (name, old) :: rest =>
      if name = key then (name, value) :: rest else (name, old) :: put key value rest

/-- Entries with each key once; of repeated keys the last value counts. -/
def distinct {α : Type} (entries : List (String × α)) : List (String × α) :=
  entries.foldl (fun table (key, value) => put key value table) []

theorem find_put {α : Type} (key other : String) (value : α) (entries : List (String × α)) :
    find? other (put key value entries) =
      if key = other then some value else find? other entries := by
  induction entries with
  | nil => simp [put, find?]
  | cons entry rest induction =>
      obtain ⟨name, old⟩ := entry
      by_cases same : name = key
      · subst same
        by_cases hit : name = other <;> simp [put, find?, hit]
      · by_cases hit : name = other
        · subst hit
          simp [put, find?, same, Ne.symm same]
        · simp [put, find?, same, hit, induction]

def get? (document : Document) (key : String) : Option Document :=
  match document with
  | .table entries => find? key entries
  | _ => none

end Document

end FederatedSearch
