/-
This file proves what the maps from ids hold after an update, and that they
stay in order.

A map is in order when its ids ascend strictly; every map of a store is, and
what is read from such a map by ranges and numbers is then determined by the
order alone. What a map holds at an id is what its first entry there holds, and
in a map in order there is no other.
-/

import AccessFeed.Proofs.Ids
import AccessFeed.Streams.IdMap

namespace AccessFeed.Streams.IdMap

variable {Value : Type}

/-! ### Holding and listing -/

theorem mem_of_lookup? {id : StreamId} {value : Value} {entries : List (StreamId × Value)}
    (held : lookup? id entries = some value) : (id, value) ∈ entries := by
  induction entries with
  | nil => exact absurd held (by simp [lookup?])
  | cons entry rest inductionHypothesis =>
    obtain ⟨other, present⟩ := entry
    rw [lookup?] at held
    split at held
    · rename_i same
      rw [same, Option.some.inj held]
      exact List.mem_cons_self
    · exact List.mem_cons_of_mem _ (inductionHypothesis held)

theorem mem_of_get? {map : IdMap Value} {id : StreamId} {value : Value}
    (held : map.get? id = some value) : (id, value) ∈ map.entries :=
  mem_of_lookup? held

theorem lookup?_eq_none_iff {id : StreamId} {entries : List (StreamId × Value)} :
    lookup? id entries = none ↔ ∀ entry ∈ entries, entry.1 ≠ id := by
  induction entries with
  | nil => simp [lookup?]
  | cons entry rest inductionHypothesis =>
    obtain ⟨other, present⟩ := entry
    rw [lookup?]
    split
    · rename_i same
      simp [same]
    · rename_i different
      simp [different, inductionHypothesis]

/-- An id is listed exactly when the map holds something there. -/
theorem mem_ids_iff {map : IdMap Value} {id : StreamId} :
    id ∈ map.ids ↔ ∃ value, map.get? id = some value := by
  constructor
  · intro listed
    obtain ⟨entry, member, same⟩ := List.mem_map.mp listed
    cases held : map.get? id with
    | none => exact absurd same (lookup?_eq_none_iff.mp held entry member)
    | some value => exact ⟨value, rfl⟩
  · rintro ⟨value, held⟩
    exact List.mem_map.mpr ⟨(id, value), mem_of_get? held, rfl⟩

theorem mem_ids_insert {map : IdMap Value} {id other : StreamId} {value : Value} :
    other ∈ (map.insert id value).ids ↔ other = id ∨ other ∈ map.ids := by
  rw [mem_ids_iff, mem_ids_iff, get?_insert]
  by_cases same : other = id <;> simp [same]

/-! ### The order of a map -/

/-- Whether the ids of a map ascend strictly. -/
def Ascending (map : IdMap Value) : Prop :=
  map.entries.Pairwise fun first second => first.1 < second.1

theorem ascending_empty : (empty : IdMap Value).Ascending := List.Pairwise.nil

theorem Ascending.ids {map : IdMap Value} (ascending : map.Ascending) :
    map.ids.Pairwise (· < ·) :=
  List.pairwise_map.mpr ascending

/-- In a map in order an entry is what the map holds at its id. -/
theorem Ascending.get?_of_mem {map : IdMap Value} (ascending : map.Ascending) {id : StreamId}
    {value : Value} (member : (id, value) ∈ map.entries) : map.get? id = some value := by
  obtain ⟨entries⟩ := map
  induction entries with
  | nil => exact absurd member List.not_mem_nil
  | cons entry rest inductionHypothesis =>
    obtain ⟨other, present⟩ := entry
    obtain ⟨first, others⟩ := List.pairwise_cons.mp ascending
    show lookup? id ((other, present) :: rest) = some value
    rw [lookup?]
    rcases List.mem_cons.mp member with same | later
    · rw [if_pos (Prod.mk.inj same).1.symm, (Prod.mk.inj same).2]
    · rw [if_neg (StreamId.ne_of_lt (first (id, value) later))]
      exact inductionHypothesis others later

theorem mem_of_mem_insertEntry {id : StreamId} {value : Value} {entry : StreamId × Value}
    {entries : List (StreamId × Value)} (member : entry ∈ insertEntry id value entries) :
    entry = (id, value) ∨ entry ∈ entries := by
  induction entries with
  | nil => exact Or.inl (List.mem_singleton.mp member)
  | cons head rest inductionHypothesis =>
    obtain ⟨other, held⟩ := head
    rw [insertEntry] at member
    split at member
    · rcases List.mem_cons.mp member with same | later
      · exact Or.inl same
      · exact Or.inr (List.mem_cons_of_mem _ later)
    · split at member
      · exact List.mem_cons.mp member
      · rcases List.mem_cons.mp member with same | later
        · exact Or.inr (same ▸ List.mem_cons_self)
        · rcases inductionHypothesis later with same | deeper
          · exact Or.inl same
          · exact Or.inr (List.mem_cons_of_mem _ deeper)

theorem Ascending.insert {map : IdMap Value} (ascending : map.Ascending) (id : StreamId)
    (value : Value) : (map.insert id value).Ascending := by
  obtain ⟨entries⟩ := map
  induction entries with
  | nil => exact List.pairwise_singleton _ _
  | cons entry rest inductionHypothesis =>
    obtain ⟨other, held⟩ := entry
    obtain ⟨first, others⟩ := List.pairwise_cons.mp ascending
    show (insertEntry id value ((other, held) :: rest)).Pairwise fun first second =>
      first.1 < second.1
    rw [insertEntry]
    split
    · rename_i same
      exact List.pairwise_cons.mpr ⟨fun entry later => same ▸ first entry later, others⟩
    · rename_i different
      split
      · rename_i less
        refine List.pairwise_cons.mpr ⟨fun entry member => ?_, ascending⟩
        rcases List.mem_cons.mp member with same | later
        · exact same ▸ less
        · exact StreamId.lt_trans less (first entry later)
      · rename_i notLess
        refine List.pairwise_cons.mpr ⟨fun entry member => ?_, inductionHypothesis others⟩
        rcases mem_of_mem_insertEntry member with same | later
        · exact same ▸ StreamId.lt_of_le_of_ne (StreamId.not_lt.mp notLess) different
        · exact first entry later

/-- What is inserted behind all entries stands last. -/
theorem entries_insert_of_behind {map : IdMap Value} {id : StreamId}
    (behind : ∀ other ∈ map.ids, other < id) (value : Value) :
    (map.insert id value).entries = map.entries ++ [(id, value)] := by
  obtain ⟨entries⟩ := map
  induction entries with
  | nil => rfl
  | cons entry rest inductionHypothesis =>
    obtain ⟨other, held⟩ := entry
    obtain ⟨less, others⟩ := List.forall_mem_cons.mp behind
    show insertEntry id value ((other, held) :: rest) = _
    rw [insertEntry, if_neg (StreamId.ne_of_lt less),
      if_neg (StreamId.not_lt.mpr (StreamId.le_of_lt less))]
    exact congrArg (List.cons _) (inductionHypothesis others)

theorem Ascending.erase {map : IdMap Value} (ascending : map.Ascending) (id : StreamId) :
    (map.erase id).Ascending :=
  List.Pairwise.filter _ ascending

/-! ### Erasing several ids -/

theorem Ascending.eraseAll {map : IdMap Value} (ascending : map.Ascending)
    (ids : List StreamId) : (map.eraseAll ids).2.Ascending := by
  induction ids generalizing map with
  | nil => exact ascending
  | cons id rest inductionHypothesis => exact inductionHypothesis (ascending.erase id)

/-- Erasing ids removes what is held there and nothing else. -/
theorem get?_eraseAll (map : IdMap Value) (ids : List StreamId) (other : StreamId) :
    (map.eraseAll ids).2.get? other = if other ∈ ids then none else map.get? other := by
  induction ids generalizing map with
  | nil => simp [IdMap.eraseAll]
  | cons id rest inductionHypothesis =>
    show ((map.erase id).eraseAll rest).2.get? other = _
    rw [inductionHypothesis, get?_erase]
    by_cases same : other = id <;> simp [same]

theorem mem_ids_eraseAll {map : IdMap Value} {ids : List StreamId} {other : StreamId} :
    other ∈ (map.eraseAll ids).2.ids ↔ other ∈ map.ids ∧ other ∉ ids := by
  rw [mem_ids_iff, mem_ids_iff, get?_eraseAll]
  by_cases listed : other ∈ ids <;> simp [listed]

/-! ### Reading by ranges -/

theorem mem_startingAt {map : IdMap Value} {start : StreamId} {entry : StreamId × Value} :
    entry ∈ map.startingAt start ↔ entry ∈ map.entries ∧ start ≤ entry.1 := by
  simp [startingAt]

theorem mem_between {map : IdMap Value} {start stop : StreamId} {entry : StreamId × Value} :
    entry ∈ map.between start stop ↔
      entry ∈ map.entries ∧ start ≤ entry.1 ∧ entry.1 ≤ stop := by
  simp [between]

/-- In a map in order what is between an id and itself is what the map holds there. -/
theorem Ascending.between_self {map : IdMap Value} (ascending : map.Ascending) (id : StreamId) :
    map.between id id = (map.get? id).toList.map fun value => (id, value) := by
  obtain ⟨entries⟩ := map
  induction entries with
  | nil => rfl
  | cons entry rest inductionHypothesis =>
    obtain ⟨other, held⟩ := entry
    obtain ⟨first, others⟩ := List.pairwise_cons.mp ascending
    show ((other, held) :: rest).filter _ = (lookup? id ((other, held) :: rest)).toList.map _
    rw [lookup?]
    by_cases same : other = id
    · subst same
      rw [if_pos rfl, List.filter_cons_of_pos (by simp [StreamId.le_refl]),
        List.filter_eq_nil_iff.mpr]
      · rfl
      · intro entry member within
        rw [Bool.and_eq_true, decide_eq_true_iff, decide_eq_true_iff] at within
        exact StreamId.not_le.mpr (first entry member) within.2
    · rw [if_neg same, List.filter_cons_of_neg]
      · exact inductionHypothesis others
      · intro within
        rw [Bool.and_eq_true, decide_eq_true_iff, decide_eq_true_iff] at within
        exact same (StreamId.rank_injective (Nat.le_antisymm within.2 within.1))

theorem Ascending.startingAt {map : IdMap Value} (ascending : map.Ascending)
    (start : StreamId) :
    (map.startingAt start).Pairwise fun first second => first.1 < second.1 :=
  List.Pairwise.filter _ ascending

/-- Of a list in order, the first entries reach up to the last of them without a gap. -/
theorem mem_take_of_le {entries : List (StreamId × Value)} {count : Nat}
    (ascending : entries.Pairwise fun first second => first.1 < second.1)
    {entry last : StreamId × Value} (member : entry ∈ entries) (taken : last ∈ entries.take count)
    (atMost : entry.1 ≤ last.1) : entry ∈ entries.take count := by
  rw [← List.take_append_drop count entries] at ascending member
  rcases List.mem_append.mp member with early | late
  · exact early
  · have behind := (List.pairwise_append.mp ascending).2.2 last taken entry late
    exact absurd atMost (StreamId.not_le.mpr behind)

end AccessFeed.Streams.IdMap
