/-
This file defines the identifiers of stream entries.

An id is a pair of 64-bit numbers, the milliseconds since the epoch and a
sequence number within the millisecond, written `<millis>-<seq>` and ordered
first by the one and then by the other. Reading accepts an id without its
sequence part, which is then zero.
-/

import AccessFeed.Streams.Error
import AccessFeed.Text.Numeral

namespace AccessFeed.Streams

/-- The identifier of a stream entry. -/
structure StreamId where
  millis : UInt64
  seq : UInt64
deriving DecidableEq, Repr, Inhabited

namespace StreamId

/-- The least id. -/
def least : StreamId := ⟨0, 0⟩

/-- The greatest 64-bit number. -/
def greatestPart : UInt64 := 18446744073709551615

/-- The greatest id. -/
def greatest : StreamId := ⟨greatestPart, greatestPart⟩

/-- The position of an id in the order of all ids. -/
def rank (id : StreamId) : Nat :=
  id.millis.toNat * 2 ^ 64 + id.seq.toNat

instance : LT StreamId := ⟨fun first second => first.rank < second.rank⟩

instance : LE StreamId := ⟨fun first second => first.rank ≤ second.rank⟩

instance (first second : StreamId) : Decidable (first < second) :=
  inferInstanceAs (Decidable (first.rank < second.rank))

instance (first second : StreamId) : Decidable (first ≤ second) :=
  inferInstanceAs (Decidable (first.rank ≤ second.rank))

theorem lt_iff {first second : StreamId} : first < second ↔ first.rank < second.rank := Iff.rfl

theorem le_iff {first second : StreamId} : first ≤ second ↔ first.rank ≤ second.rank := Iff.rfl

/-- An id is determined by its position. -/
theorem rank_injective {first second : StreamId} (same : first.rank = second.rank) :
    first = second := by
  obtain ⟨firstMillis, firstSeq⟩ := first
  obtain ⟨secondMillis, secondSeq⟩ := second
  simp only [rank] at same
  have firstBound := firstSeq.toNat_lt
  have secondBound := secondSeq.toNat_lt
  have millisSame : firstMillis.toNat = secondMillis.toNat := by omega
  have seqSame : firstSeq.toNat = secondSeq.toNat := by omega
  rw [UInt64.toNat_inj.mp millisSame, UInt64.toNat_inj.mp seqSame]

/-- The next id within the same millisecond; behind the last one, the first id of the next
millisecond, which stays in the last millisecond there is. -/
def successor (id : StreamId) : StreamId :=
  if id.seq = greatestPart then
    ⟨if id.millis = greatestPart then greatestPart else id.millis + 1, 0⟩
  else ⟨id.millis, id.seq + 1⟩

/-- An id in its written form. -/
def display (id : StreamId) : String :=
  Text.decimal id.millis.toNat ++ "-" ++ Text.decimal id.seq.toNat

/-- An id written as a retention cutoff, the sequence with at least three digits. -/
def cutoffText (id : StreamId) : String :=
  Text.decimal id.millis.toNat ++ "-" ++ Text.paddedDecimal 3 id.seq.toNat

/-- The error for a text that is no id. -/
def invalid (text : String) : StoreError :=
  .protocol ("Invalid stream id: '" ++ text ++ "'")

/-- The characters before and behind the first hyphen, if there is one. -/
def splitHyphen : List Char → List Char × Option (List Char)
  | [] => ([], none)
  | '-' :: rest => ([], some rest)
  | c :: rest =>
    let (before, behind) := splitHyphen rest
    (c :: before, behind)

/-- Reads the written form of an id, or a bare number of milliseconds. -/
def read (text : String) : Except StoreError StreamId :=
  let (millisText, seqText) := splitHyphen text.toList
  match Text.readUInt64 millisText, (seqText.map Text.readUInt64).getD (.ok 0) with
  | .ok millis, .ok seq => .ok ⟨millis.toUInt64, seq.toUInt64⟩
  | _, _ => .error (invalid text)

end StreamId

/-- Where a group read begins: behind everything delivered to the group so far, or among the
reader's own pending entries behind an id. -/
inductive ReadOffset
  | lastConsumed
  | pendingAfter (id : StreamId)
deriving DecidableEq, Repr

namespace ReadOffset

/-- An offset as the argument of a read command. -/
def argument : ReadOffset → String
  | .lastConsumed => ">"
  | .pendingAfter id => id.display

end ReadOffset

end AccessFeed.Streams
