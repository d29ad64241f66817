/-
This file proves what tables hold whose keys are different.

A table finds the first row of a key, so that rows behind it would be hidden.
Where keys are different none is, and looking up comes to membership.
-/

import Mathlib.Data.List.Nodup
import AccessFeed.Table

namespace AccessFeed.Table

variable {Key Value : Type} [DecidableEq Key] {rows : List (Key × Value)} {key : Key}
  {value : Value}

/-- Where keys are different, a row is what is found under its key. -/
theorem lookup?_eq_some_iff (distinct : (rows.map Prod.fst).Nodup) :
    lookup? key rows = some value ↔ (key, value) ∈ rows := by
  induction rows with
  | nil => simp [lookup?]
  | cons row rest inductionHypothesis =>
    obtain ⟨other, held⟩ := row
    obtain ⟨unrepeated, others⟩ := List.nodup_cons.mp distinct
    rw [lookup?, List.mem_cons, Prod.mk.injEq]
    by_cases same : other = key
    · subst same
      have elsewhere : (other, value) ∉ rest := fun member =>
        unrepeated (List.mem_map.mpr ⟨_, member, rfl⟩)
      simp [elsewhere, eq_comm]
    · rw [if_neg same, inductionHypothesis others]
      simp [Ne.symm same]

theorem lookup?_eq_none_iff : lookup? key rows = none ↔ key ∉ rows.map Prod.fst := by
  induction rows with
  | nil => simp [lookup?]
  | cons row rest inductionHypothesis =>
    obtain ⟨other, held⟩ := row
    rw [lookup?, List.map_cons, List.mem_cons, not_or, ← inductionHypothesis]
    by_cases same : other = key
    · simp [same]
    · simp [same, Ne.symm same]

/-- A key is listed exactly when the table holds something there. -/
theorem mem_keys_iff {table : Table Key Value} : key ∈ table.keys ↔ (table.get? key).isSome := by
  have absent : table.get? key = none ↔ key ∉ table.keys := lookup?_eq_none_iff
  rw [Option.isSome_iff_ne_none, Ne, absent, not_not]

theorem setRow_of_absent (absent : lookup? key rows = none) (value : Value) :
    setRow key value rows = rows ++ [(key, value)] := by
  induction rows with
  | nil => rfl
  | cons row rest inductionHypothesis =>
    obtain ⟨other, held⟩ := row
    rw [lookup?] at absent
    split at absent
    · cases absent
    · rename_i different
      rw [setRow, if_neg different, inductionHypothesis absent, List.cons_append]

theorem keys_set_of_present {table : Table Key Value} (present : key ∈ table.keys)
    (value : Value) : (table.set key value).keys = table.keys := by
  obtain ⟨rows⟩ := table
  show (setRow key value rows).map Prod.fst = rows.map Prod.fst
  induction rows with
  | nil => cases present
  | cons row rest inductionHypothesis =>
    rw [setRow]
    by_cases same : row.1 = key
    · rw [if_pos same, List.map_cons, List.map_cons, same]
    · have later : key ∈ rest.map Prod.fst :=
        (List.mem_cons.mp present).resolve_left (Ne.symm same)
      rw [if_neg same, List.map_cons, List.map_cons, inductionHypothesis later]

/-- Setting a key leaves the keys different. -/
theorem nodup_keys_set {table : Table Key Value} (distinct : table.keys.Nodup) (key : Key)
    (value : Value) : (table.set key value).keys.Nodup := by
  by_cases present : key ∈ table.keys
  · rw [keys_set_of_present present]
    exact distinct
  · have rows : (table.set key value).keys = table.keys ++ [key] := by
      rw [keys, set, setRow_of_absent (lookup?_eq_none_iff.mpr present), List.map_append]
      rfl
    rw [rows, ← List.concat_eq_append]
    exact distinct.concat present

end AccessFeed.Table
