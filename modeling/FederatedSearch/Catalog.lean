/-!
Catalogs: entries under distinct names in the order of the names.
-/

namespace FederatedSearch

/-- Puts an entry at its place among entries in order, instead of the one with its name. -/
def insertEntry {α : Type} (name : String) (value : α) :
    List (String × α) → List (String × α)
  | [] => [(name, value)]
  | (other, old) :: rest =>
      if name < other then (name, value) :: (other, old) :: rest
      else if name = other then (name, value) :: rest
      else (other, old) :: insertEntry name value rest

theorem mem_insert_entry {α : Type} {name : String} {value : α} {entries : List (String × α)}
    {entry : String × α} (member : entry ∈ insertEntry name value entries) :
    entry = (name, value) ∨ entry ∈ entries := by
  induction entries with
  | nil => simpa [insertEntry] using member
  | cons first rest induction =>
      obtain ⟨other, old⟩ := first
      rw [insertEntry] at member
      split at member
      · simpa using member
      · split at member
        · rcases List.mem_cons.1 member with here | there
          · exact .inl here
          · exact .inr (List.mem_cons_of_mem _ there)
        · rcases List.mem_cons.1 member with here | there
          · exact .inr (here ▸ List.mem_cons_self)
          · exact (induction there).imp id (List.mem_cons_of_mem _)

theorem insert_entry_sorted {α : Type} {name : String} {value : α} {entries : List (String × α)}
    (sorted : entries.Pairwise (·.1 < ·.1)) :
    (insertEntry name value entries).Pairwise (·.1 < ·.1) := by
  induction entries with
  | nil => simp [insertEntry]
  | cons first rest induction =>
      obtain ⟨other, old⟩ := first
      have ⟨below, sortedRest⟩ := List.pairwise_cons.1 sorted
      rw [insertEntry]
      split
      · next before =>
        refine List.pairwise_cons.2 ⟨fun entry member => ?_, sorted⟩
        rcases List.mem_cons.1 member with rfl | there
        · exact before
        · exact String.lt_trans before (below entry there)
      · next notBefore =>
        split
        · next same =>
          subst same
          exact List.pairwise_cons.2 ⟨below, sortedRest⟩
        · next different =>
          refine List.pairwise_cons.2 ⟨fun entry member => ?_, induction sortedRest⟩
          rcases mem_insert_entry member with rfl | there
          · simp only at *
            grind
          · exact below entry there

structure Catalog (α : Type) where
  entries : List (String × α)
  sorted : entries.Pairwise (·.1 < ·.1)

namespace Catalog

variable {α : Type}

def empty : Catalog α := ⟨[], .nil⟩

def insert (catalog : Catalog α) (name : String) (value : α) : Catalog α :=
  ⟨insertEntry name value catalog.entries, insert_entry_sorted catalog.sorted⟩

def erase (catalog : Catalog α) (name : String) : Catalog α :=
  ⟨catalog.entries.filter (·.1 != name), catalog.sorted.filter _⟩

/-- Of entries with the same name the last one stays. -/
def ofList (entries : List (String × α)) : Catalog α :=
  entries.foldl (fun catalog (name, value) => catalog.insert name value) empty

def names (catalog : Catalog α) : List String := catalog.entries.map (·.1)

def size (catalog : Catalog α) : Nat := catalog.entries.length

def find? (catalog : Catalog α) (name : String) : Option α :=
  (catalog.entries.find? (·.1 == name)).map (·.2)

def isEmpty (catalog : Catalog α) : Bool := catalog.entries.isEmpty

theorem nodup_names (catalog : Catalog α) : catalog.names.Nodup := by
  rw [names, List.Nodup, List.pairwise_map]
  refine catalog.sorted.imp ?_
  intro first second below same
  exact String.lt_irrefl _ (same ▸ below)

end Catalog

end FederatedSearch
