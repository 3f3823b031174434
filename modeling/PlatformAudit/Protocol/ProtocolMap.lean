/-!
# Maps from protocol identifiers

A `ProtocolMap` holds at most one value for each protocol identifier, as entries in ascending
order.  The order is part of the type, so walking through a map visits the protocols in ascending
order.
-/

universe u

namespace PlatformAudit

/-- Entries with distinct protocol identifiers, in ascending order. -/
structure ProtocolMap (α : Type u) where
  entries : List (UInt8 × α)
  ascending : entries.Pairwise fun earlier later => earlier.1 < later.1

namespace ProtocolMap

variable {α : Type u}

/-- Puts an entry at its place.  An entry of the same identifier makes room for it. -/
def place (id : UInt8) (value : α) : List (UInt8 × α) → List (UInt8 × α)
  | [] => [(id, value)]
  | head :: rest =>
      if id < head.1 then (id, value) :: head :: rest
      else if head.1 < id then head :: place id value rest
      else (id, value) :: rest

private theorem mem_place {id : UInt8} {value : α} {entry : UInt8 × α} :
    ∀ {entries : List (UInt8 × α)},
      entry ∈ place id value entries → entry = (id, value) ∨ entry ∈ entries
  | [], member => by simpa [place] using member
  | head :: rest, member => by
      unfold place at member
      split at member
      · simpa using member
      · split at member
        · rcases List.mem_cons.mp member with same | member
          · simp [same]
          · rcases mem_place member with same | member
            · exact .inl same
            · exact .inr (List.mem_cons_of_mem _ member)
        · rcases List.mem_cons.mp member with same | member
          · exact .inl same
          · exact .inr (List.mem_cons_of_mem _ member)

/-- Placing an entry keeps the ascending order. -/
theorem place_ascending {id : UInt8} {value : α} :
    ∀ {entries : List (UInt8 × α)},
      entries.Pairwise (fun earlier later => earlier.1 < later.1) →
      (place id value entries).Pairwise (fun earlier later => earlier.1 < later.1)
  | [], _ => by simp [place]
  | head :: rest, ascending => by
      obtain ⟨below, tail⟩ := List.pairwise_cons.mp ascending
      unfold place
      split
      · rename_i smaller
        refine List.pairwise_cons.mpr ⟨fun entry member => ?_, ascending⟩
        rcases List.mem_cons.mp member with same | member
        · simpa [same] using smaller
        · exact UInt8.lt_trans smaller (below entry member)
      · split
        · rename_i larger
          refine List.pairwise_cons.mpr ⟨fun entry member => ?_, place_ascending tail⟩
          rcases mem_place member with same | member
          · simpa [same] using larger
          · exact below entry member
        · rename_i notSmaller notLarger
          have same : head.1 = id :=
            UInt8.le_antisymm (UInt8.not_lt.mp notSmaller) (UInt8.not_lt.mp notLarger)
          refine List.pairwise_cons.mpr ⟨fun entry member => ?_, tail⟩
          simpa [same] using below entry member

def empty : ProtocolMap α where
  entries := []
  ascending := .nil

/-- The map with the given value for an identifier, in place of the one it may have had. -/
def insert (map : ProtocolMap α) (id : UInt8) (value : α) : ProtocolMap α where
  entries := place id value map.entries
  ascending := place_ascending map.ascending

def get? (map : ProtocolMap α) (id : UInt8) : Option α :=
  (map.entries.find? fun entry => entry.1 = id).map (·.2)

def contains (map : ProtocolMap α) (id : UInt8) : Bool :=
  (map.get? id).isSome

def ids (map : ProtocolMap α) : List UInt8 :=
  map.entries.map (·.1)

end ProtocolMap

end PlatformAudit
