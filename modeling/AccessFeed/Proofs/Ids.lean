/-
This file proves how ids are ordered, what their successors are, and that they
can be written and read back.

Ids are compared by their rank, a number below `2 ^ 128`, so that the facts of
the order come down to facts of numbers. The successor of an id is the next id
of the order, with one exception: the greatest id has none, and what is taken
for its successor is the first id of the last millisecond, which lies far below
it. Whatever is said of ids that only grow has to leave the greatest one out.
A written id is read back as it was, so that ids may be told apart by their
written forms.
-/

import AccessFeed.Streams.Id

namespace AccessFeed.Streams.StreamId

/-! ### The order -/

theorem le_refl (id : StreamId) : id ≤ id := Nat.le_refl id.rank

theorem lt_irrefl (id : StreamId) : ¬ id < id := Nat.lt_irrefl id.rank

theorem le_trans {first second third : StreamId} (left : first ≤ second)
    (right : second ≤ third) : first ≤ third :=
  Nat.le_trans left right

theorem lt_trans {first second third : StreamId} (left : first < second)
    (right : second < third) : first < third :=
  Nat.lt_trans left right

theorem lt_of_le_of_lt {first second third : StreamId} (left : first ≤ second)
    (right : second < third) : first < third :=
  Nat.lt_of_le_of_lt left right

theorem le_of_lt {first second : StreamId} (less : first < second) : first ≤ second :=
  Nat.le_of_lt less

theorem not_lt {first second : StreamId} : ¬ first < second ↔ second ≤ first := Nat.not_lt

theorem not_le {first second : StreamId} : ¬ first ≤ second ↔ second < first := Nat.not_le

theorem ne_of_lt {first second : StreamId} (less : first < second) : first ≠ second := by
  intro same
  rw [same] at less
  exact lt_irrefl second less

theorem lt_of_le_of_ne {first second : StreamId} (atMost : first ≤ second)
    (different : first ≠ second) : first < second :=
  Nat.lt_of_le_of_ne atMost fun same => different (rank_injective same)

/-! ### The least and the greatest id -/

theorem least_le (id : StreamId) : least ≤ id := Nat.zero_le id.rank

theorem rank_greatest : greatest.rank = 2 ^ 128 - 1 := by decide

theorem rank_lt (id : StreamId) : id.rank < 2 ^ 128 := by
  have millisBound := id.millis.toNat_lt
  have seqBound := id.seq.toNat_lt
  unfold rank
  omega

theorem le_greatest (id : StreamId) : id ≤ greatest := by
  have bound := id.rank_lt
  rw [le_iff, rank_greatest]
  omega

/-! ### Successors -/

theorem toNat_greatestPart : greatestPart.toNat = 2 ^ 64 - 1 := rfl

theorem toNat_succ_of_ne {part : UInt64} (below : part ≠ greatestPart) :
    (part + 1).toNat = part.toNat + 1 := by
  have bound := part.toNat_lt
  have different : part.toNat ≠ 2 ^ 64 - 1 := fun same =>
    below (UInt64.toNat_inj.mp (same.trans toNat_greatestPart.symm))
  rw [UInt64.toNat_add]
  change (part.toNat + 1) % 2 ^ 64 = part.toNat + 1
  omega

/-- Below the greatest id, the successor is the next id of the order. -/
theorem rank_successor {id : StreamId} (below : id ≠ greatest) :
    id.successor.rank = id.rank + 1 := by
  obtain ⟨millis, seq⟩ := id
  unfold successor
  by_cases lastSeq : seq = greatestPart
  · have notLast : millis ≠ greatestPart := by
      intro lastMillis
      exact below (by rw [lastSeq, lastMillis]; rfl)
    rw [if_pos lastSeq, if_neg notLast]
    simp only [rank, toNat_succ_of_ne notLast, lastSeq, toNat_greatestPart]
    show (millis.toNat + 1) * 2 ^ 64 + 0 = millis.toNat * 2 ^ 64 + (2 ^ 64 - 1) + 1
    omega
  · rw [if_neg lastSeq]
    simp only [rank, toNat_succ_of_ne lastSeq]
    omega

theorem lt_successor {id : StreamId} (below : id ≠ greatest) : id < id.successor := by
  rw [lt_iff, rank_successor below]
  exact Nat.lt_succ_self id.rank

/-- Reading from the successor of an id on is reading behind the id. -/
theorem successor_le_iff {id other : StreamId} (below : id ≠ greatest) :
    id.successor ≤ other ↔ id < other := by
  rw [le_iff, lt_iff, rank_successor below]
  exact Nat.succ_le_iff

/-! ### Written ids -/

end AccessFeed.Streams.StreamId

namespace AccessFeed.Text

theorem digitChar_mod (value : Nat) : digitChar (value % 10) = digitChar value := by
  rw [digitChar, digitChar, Nat.mod_mod]

/-- Every character of a written number is the digit of a value below ten. -/
theorem mem_digitsOf {value : Nat} {c : Char} (member : c ∈ digitsOf value) :
    ∃ digit : Fin 10, c = digitChar digit.val := by
  induction value using Nat.strongRecOn with
  | _ value inductionHypothesis =>
    have last : c = digitChar value → ∃ digit : Fin 10, c = digitChar digit.val := fun same =>
      ⟨⟨value % 10, Nat.mod_lt _ (by omega)⟩, same.trans (digitChar_mod value).symm⟩
    by_cases small : value < 10
    · rw [digitsOf_of_lt_ten small] at member
      exact last (List.mem_singleton.mp member)
    · rw [digitsOf_of_ten_le (by omega)] at member
      rcases List.mem_append.mp member with earlier | final
      · exact inductionHypothesis (value / 10) (by omega) earlier
      · exact last (List.mem_singleton.mp final)

theorem not_mem_digitsOf {value : Nat} {c : Char}
    (noDigit : ∀ digit : Fin 10, c ≠ digitChar digit.val) : c ∉ digitsOf value := by
  intro member
  obtain ⟨digit, same⟩ := mem_digitsOf member
  exact noDigit digit same

/-- Reading the digits of a number, with others behind them, comes to the number. -/
theorem boundedDigits_digitsOf {bound value : Nat} (within : value ≤ bound)
    (excess : NumeralFault) (rest : List Char) :
    boundedDigits bound excess 0 (digitsOf value ++ rest) =
      boundedDigits bound excess value rest := by
  induction value using Nat.strongRecOn generalizing rest with
  | _ value inductionHypothesis =>
    by_cases small : value < 10
    · rw [digitsOf_of_lt_ten small, List.singleton_append, boundedDigits,
        digitValue?_digitChar small]
      simp only [Nat.zero_mul, Nat.zero_add, if_pos within]
    · have combined : value / 10 * 10 + value % 10 = value := by omega
      rw [digitsOf_of_ten_le (by omega), List.append_assoc, List.singleton_append,
        inductionHypothesis (value / 10) (by omega) (by omega), boundedDigits,
        ← digitChar_mod value, digitValue?_digitChar (Nat.mod_lt value (by omega))]
      simp only [combined, if_pos within]

/-- A written number is read back. -/
theorem readNat_digitsOf {bound value : Nat} (within : value ≤ bound) :
    readNat bound (digitsOf value) = .ok value := by
  have unsigned : '+' ∉ digitsOf value := not_mem_digitsOf (by decide)
  have digits := boundedDigits_digitsOf within .tooLarge []
  rw [List.append_nil, boundedDigits] at digits
  rw [readNat.eq_def]
  split
  · rename_i empty
    exact absurd empty (digitsOf_ne_nil value)
  · rename_i lone
    exact absurd (lone ▸ List.mem_singleton.mpr rfl) unsigned
  · rename_i rest signed
    exact absurd (signed ▸ List.mem_cons_self) unsigned
  · exact digits

end AccessFeed.Text

namespace AccessFeed.Streams.StreamId

theorem splitHyphen_append {before : List Char} (unbroken : '-' ∉ before) (behind : List Char) :
    splitHyphen (before ++ '-' :: behind) = (before, some behind) := by
  induction before with
  | nil => rfl
  | cons c rest inductionHypothesis =>
    have different : '-' ≠ c := List.ne_of_not_mem_cons unbroken
    have others : '-' ∉ rest := List.not_mem_of_not_mem_cons unbroken
    rw [List.cons_append, splitHyphen.eq_def]
    split
    · rename_i impossible
      cases impossible
    · rename_i same
      exact absurd (List.cons.inj same).1.symm different
    · rename_i first tail _ same
      obtain ⟨rfl, rfl⟩ := List.cons.inj same
      rw [inductionHypothesis others]

theorem toList_display (id : StreamId) :
    id.display.toList =
      Text.digitsOf id.millis.toNat ++ '-' :: Text.digitsOf id.seq.toNat := by
  simp [display, Text.decimal]

/-- A written id is read back. -/
theorem read_display (id : StreamId) : read id.display = .ok id := by
  have millisBound : id.millis.toNat ≤ 2 ^ 64 - 1 := Nat.le_pred_of_lt id.millis.toNat_lt
  have seqBound : id.seq.toNat ≤ 2 ^ 64 - 1 := Nat.le_pred_of_lt id.seq.toNat_lt
  rw [read, toList_display, splitHyphen_append (Text.not_mem_digitsOf (by decide))]
  simp only [Option.map_some, Option.getD_some, Text.readUInt64,
    Text.readNat_digitsOf millisBound, Text.readNat_digitsOf seqBound]
  simp

/-- An id is determined by its written form. -/
theorem display_injective {first second : StreamId} (same : first.display = second.display) :
    first = second := by
  have readFirst := read_display first
  rw [same, read_display second] at readFirst
  exact (Except.ok.inj readFirst).symm

end AccessFeed.Streams.StreamId
