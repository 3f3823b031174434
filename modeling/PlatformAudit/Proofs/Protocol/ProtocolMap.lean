import PlatformAudit.Protocol.ProtocolMap

/-!
# Lookups in maps from protocols

Putting a value into a map changes what is found under its identifier and nothing else.
-/

universe u

namespace PlatformAudit.ProtocolMap

variable {α : Type u}

private theorem find?_place_same (id : UInt8) (value : α) (entries : List (UInt8 × α)) :
    (place id value entries).find? (fun entry => entry.1 = id) = some (id, value) := by
  induction entries with
  | nil => simp [place]
  | cons head rest induction =>
      by_cases below : id < head.1
      · simp [place, below]
      · by_cases above : head.1 < id
        · have different : head.1 ≠ id := fun same => UInt8.lt_irrefl id (same ▸ above)
          simp [place, below, above, different, induction]
        · simp [place, below, above]

private theorem find?_place_other {id other : UInt8} (different : other ≠ id) (value : α)
    (entries : List (UInt8 × α)) :
    (place id value entries).find? (fun entry => entry.1 = other) =
      entries.find? fun entry => entry.1 = other := by
  have skipped : ¬id = other := fun same => different same.symm
  induction entries with
  | nil => simp [place, skipped]
  | cons head rest induction =>
      by_cases below : id < head.1
      · simp [place, below, skipped]
      · by_cases above : head.1 < id
        · simp [place, below, above, List.find?_cons, induction]
        · have same : head.1 = id :=
            UInt8.le_antisymm (UInt8.not_lt.mp below) (UInt8.not_lt.mp above)
          simp [place, same, skipped]

private theorem place_place (id : UInt8) (first second : α) (entries : List (UInt8 × α)) :
    place id second (place id first entries) = place id second entries := by
  have self : ¬id < id := UInt8.lt_irrefl id
  induction entries with
  | nil => simp [place, self]
  | cons head rest induction =>
      by_cases below : id < head.1
      · simp [place, below, self]
      · by_cases above : head.1 < id
        · simp [place, below, above, induction]
        · simp [place, below, above, self]

@[ext]
theorem ext {first second : ProtocolMap α} (same : first.entries = second.entries) :
    first = second := by
  cases first
  cases second
  cases same
  rfl

theorem insert_insert (map : ProtocolMap α) (id : UInt8) (first second : α) :
    (map.insert id first).insert id second = map.insert id second :=
  ext (place_place id first second map.entries)

theorem get?_insert (map : ProtocolMap α) (id other : UInt8) (value : α) :
    (map.insert id value).get? other = if other = id then some value else map.get? other := by
  by_cases same : other = id
  · rw [if_pos same, same, get?, insert, find?_place_same]
    rfl
  · rw [if_neg same, get?, insert, find?_place_other same, ← get?]

/-- The entries are what lookups find. -/
theorem mem_entries_iff (map : ProtocolMap α) (id : UInt8) (value : α) :
    (id, value) ∈ map.entries ↔ map.get? id = some value := by
  unfold get?
  generalize map.entries = entries, map.ascending = ascending
  induction entries with
  | nil => simp
  | cons head rest induction =>
      obtain ⟨below, ofRest⟩ := List.pairwise_cons.mp ascending
      obtain ⟨key, first⟩ := head
      by_cases here : key = id
      · subst here
        have once : (key, value) ∉ rest := fun later => UInt8.lt_irrefl key (below _ later)
        rw [List.find?_cons_of_pos (by simp)]
        simp [once, eq_comm]
      · have elsewhere : (id, value) ≠ (key, first) := fun same =>
          here (congrArg Prod.fst same).symm
        rw [List.find?_cons_of_neg (by simpa using here), ← induction ofRest, List.mem_cons]
        simp [elsewhere]

theorem mem_ids_iff (map : ProtocolMap α) (id : UInt8) :
    id ∈ map.ids ↔ map.contains id = true := by
  unfold ids contains
  rw [Option.isSome_iff_exists, List.mem_map]
  constructor
  · rintro ⟨⟨_, value⟩, member, rfl⟩
    exact ⟨value, (map.mem_entries_iff _ _).mp member⟩
  · rintro ⟨value, found⟩
    exact ⟨(id, value), (map.mem_entries_iff _ _).mpr found, rfl⟩

theorem ids_ascending (map : ProtocolMap α) : map.ids.Pairwise (· < ·) :=
  List.pairwise_map.mpr map.ascending

end PlatformAudit.ProtocolMap
