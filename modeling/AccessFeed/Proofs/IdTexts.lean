/-
This file proves what texts are read as ids, and that written ids are among them.

An id is spelled by two numbers around a hyphen, or by one number alone. A number
has no hyphen in it, so the first hyphen of a text decides where it is divided,
and any other one spoils it. Reading accepts what spells an id, both numbers
being within sixty-four bits, and both written forms, the one with a padded
sequence included, spell the id they were written from.
-/

import Mathlib.Logic.Function.Basic
import AccessFeed.Proofs.Spellings

namespace AccessFeed

namespace Text

theorem digitless_hyphen : isDigit '-' = false := by decide

theorem SpellsNat.hyphenless {text : List Char} {value : Nat} (spells : SpellsNat text value) :
    '-' ∉ text := by
  have apart : ∀ {digits : List Char}, IsDigits digits → '-' ∉ digits := fun are member =>
    ne_of_isDigit (are.digits '-' member) digitless_hyphen rfl
  cases spells with
  | bare are => exact apart are
  | plus are => exact List.not_mem_cons_of_ne_of_not_mem (by decide) (apart are)

theorem readUInt64_eq_ok_iff (text : List Char) (value : Nat) :
    readUInt64 text = .ok value ↔ SpellsNat text value ∧ value < 2 ^ 64 := by
  rw [readUInt64, readNat_eq_ok_iff, Nat.le_sub_one_iff_lt (by decide)]

/-- A number filled up with zeros spells the number. -/
theorem spellsNat_padded (width value : Nat) : SpellsNat (padded width (digitsOf value)) value := by
  have spells := SpellsNat.bare (isDigits_padded width value)
  rwa [digitsValue_padded] at spells

theorem padded_zero (text : List Char) : padded 0 text = text := by
  rw [padded, Nat.zero_sub, List.replicate_zero, List.nil_append]

end Text

namespace Streams

open Text (SpellsNat)

namespace StreamId

/-- A text spells the two numbers of an id: both around a hyphen, or the milliseconds alone. -/
inductive Spells : List Char → Nat → Nat → Prop
  | bare {text : List Char} {millis : Nat} (spells : SpellsNat text millis) : Spells text millis 0
  | parted {before behind : List Char} {millis seq : Nat} (spellsMillis : SpellsNat before millis)
    (spellsSeq : SpellsNat behind seq) : Spells (before ++ '-' :: behind) millis seq

/-! ### Dividing a text -/

theorem splitHyphen_of_not_mem {text : List Char} (unbroken : '-' ∉ text) :
    splitHyphen text = (text, none) := by
  induction text with
  | nil => rfl
  | cons c rest inductionHypothesis =>
    have different : '-' ≠ c := List.ne_of_not_mem_cons unbroken
    have others : '-' ∉ rest := List.not_mem_of_not_mem_cons unbroken
    rw [splitHyphen.eq_def]
    split
    · rename_i impossible
      cases impossible
    · rename_i same
      exact absurd (List.cons.inj same).1.symm different
    · rename_i first tail _ same
      obtain ⟨rfl, rfl⟩ := List.cons.inj same
      rw [inductionHypothesis others]

/-- Where there is no hyphen, only milliseconds are spelled. -/
theorem spells_iff_of_not_mem {text : List Char} (unbroken : '-' ∉ text) (millis seq : Nat) :
    Spells text millis seq ↔ SpellsNat text millis ∧ seq = 0 := by
  constructor
  · intro spells
    cases spells with
    | bare spells => exact ⟨spells, rfl⟩
    | parted => exact absurd (List.mem_append_right _ List.mem_cons_self) unbroken
  · rintro ⟨spells, rfl⟩
    exact .bare spells

/-- The first hyphen divides the two numbers. -/
theorem spells_append_iff {before : List Char} (unbroken : '-' ∉ before) (behind : List Char)
    (millis seq : Nat) :
    Spells (before ++ '-' :: behind) millis seq ↔
      SpellsNat before millis ∧ SpellsNat behind seq := by
  constructor
  · generalize whole : before ++ '-' :: behind = text
    intro spells
    cases spells with
    | bare spells =>
      exact absurd (whole ▸ List.mem_append_right _ List.mem_cons_self) spells.hyphenless
    | parted spellsMillis spellsSeq =>
      have divided := congrArg splitHyphen whole
      rw [splitHyphen_append unbroken, splitHyphen_append spellsMillis.hyphenless] at divided
      obtain ⟨rfl, same⟩ := Prod.mk.inj divided
      obtain rfl := Option.some.inj same
      exact ⟨spellsMillis, spellsSeq⟩
  · rintro ⟨spellsMillis, spellsSeq⟩
    exact .parted spellsMillis spellsSeq

/-! ### Reading -/

/-- The id of two numbers that were read. -/
def ofNumbers (fault : StoreError) (millis seq : Except Text.NumeralFault Nat) :
    Except StoreError StreamId :=
  match millis, seq with
  | .ok millis, .ok seq => .ok ⟨millis.toUInt64, seq.toUInt64⟩
  | _, _ => .error fault

theorem read_eq (text : String) :
    read text = ofNumbers (invalid text) (Text.readUInt64 (splitHyphen text.toList).1)
      (((splitHyphen text.toList).2.map Text.readUInt64).getD (.ok 0)) := rfl

theorem ofNumbers_eq_ok_iff (fault : StoreError) {millis seq : Except Text.NumeralFault Nat}
    (millisFits : ∀ value, millis = .ok value → value < 2 ^ 64)
    (seqFits : ∀ value, seq = .ok value → value < 2 ^ 64) (id : StreamId) :
    ofNumbers fault millis seq = .ok id ↔
      millis = .ok id.millis.toNat ∧ seq = .ok id.seq.toNat := by
  cases millis with
  | error => exact ⟨fun impossible => (nomatch impossible), fun told => nomatch told.1⟩
  | ok millis =>
    cases seq with
    | error => exact ⟨fun impossible => (nomatch impossible), fun told => nomatch told.2⟩
    | ok seq =>
      have first : millis.toUInt64.toNat = millis :=
        UInt64.toNat_ofNat_of_lt' (millisFits millis rfl)
      have second : seq.toUInt64.toNat = seq := UInt64.toNat_ofNat_of_lt' (seqFits seq rfl)
      rw [ofNumbers, Except.ok.injEq, Except.ok.injEq, Except.ok.injEq]
      refine ⟨?_, ?_⟩
      · rintro rfl
        exact ⟨first.symm, second.symm⟩
      · rintro ⟨rfl, rfl⟩
        simp

/-- A number is read within sixty-four bits. -/
theorem readUInt64_fits {text : List Char} (value : Nat) (read : Text.readUInt64 text = .ok value) :
    value < 2 ^ 64 :=
  ((Text.readUInt64_eq_ok_iff text value).mp read).2

/-- What spells an id is read as that id, and nothing else is read. -/
theorem read_eq_ok_iff (text : String) (id : StreamId) :
    read text = .ok id ↔ Spells text.toList id.millis.toNat id.seq.toNat := by
  have millisSmall := id.millis.toNat_lt
  have seqSmall := id.seq.toNat_lt
  rw [read_eq]
  by_cases broken : '-' ∈ text.toList
  · obtain ⟨before, behind, whole, unbroken⟩ := List.eq_append_cons_of_mem broken
    rw [whole, splitHyphen_append unbroken, spells_append_iff unbroken]
    refine (ofNumbers_eq_ok_iff _ readUInt64_fits readUInt64_fits id).trans ?_
    rw [Text.readUInt64_eq_ok_iff, Text.readUInt64_eq_ok_iff, and_iff_left millisSmall,
      and_iff_left seqSmall]
  · rw [splitHyphen_of_not_mem broken, spells_iff_of_not_mem broken]
    refine (ofNumbers_eq_ok_iff _ readUInt64_fits ?_ id).trans ?_
    · rintro value same
      exact Except.ok.inj same ▸ by decide
    · rw [Text.readUInt64_eq_ok_iff, and_iff_left millisSmall]
      exact and_congr_right fun _ => ⟨fun same => (Except.ok.inj same).symm, fun none => none ▸ rfl⟩

/-- Exactly the texts that spell two numbers of sixty-four bits are read. -/
theorem exists_read_iff (text : String) :
    (∃ id, read text = .ok id) ↔
      ∃ millis seq, Spells text.toList millis seq ∧ millis < 2 ^ 64 ∧ seq < 2 ^ 64 := by
  constructor
  · rintro ⟨id, accepted⟩
    exact ⟨_, _, (read_eq_ok_iff text id).mp accepted, id.millis.toNat_lt, id.seq.toNat_lt⟩
  · rintro ⟨millis, seq, spells, millisSmall, seqSmall⟩
    refine ⟨⟨millis.toUInt64, seq.toUInt64⟩, (read_eq_ok_iff text _).mpr ?_⟩
    rwa [show millis.toUInt64.toNat = millis from UInt64.toNat_ofNat_of_lt' millisSmall,
      show seq.toUInt64.toNat = seq from UInt64.toNat_ofNat_of_lt' seqSmall]

/-! ### Writing -/

theorem toList_cutoffText (id : StreamId) :
    id.cutoffText.toList = Text.digitsOf id.millis.toNat ++
      '-' :: Text.padded 3 (Text.digitsOf id.seq.toNat) := by
  simp [cutoffText, Text.decimal, Text.paddedDecimal]

/-- The text of a cutoff is read back, the zeros in front of its sequence aside. -/
theorem read_cutoffText (id : StreamId) : read id.cutoffText = .ok id := by
  have millis := Text.spellsNat_padded 0 id.millis.toNat
  rw [Text.padded_zero] at millis
  rw [read_eq_ok_iff, toList_cutoffText]
  exact .parted millis (Text.spellsNat_padded 3 id.seq.toNat)

/-- The arguments of read commands tell their offsets apart. -/
theorem argument_injective : Function.Injective ReadOffset.argument := by
  have apart : ∀ id : StreamId, id.display ≠ ">" := by
    intro id same
    have read := read_display id
    rw [same] at read
    cases read
  intro first second same
  cases first with
  | lastConsumed =>
    cases second with
    | lastConsumed => rfl
    | pendingAfter id => exact absurd same.symm (apart id)
  | pendingAfter id =>
    cases second with
    | lastConsumed => exact absurd same (apart id)
    | pendingAfter other => rw [display_injective same]

/-- Both written forms of an id are read back, offsets are told apart by their arguments, and
exactly the texts that spell two numbers of sixty-four bits are read, as the id of these numbers. -/
theorem written_and_read :
    (∀ id : StreamId, read id.display = .ok id ∧ read id.cutoffText = .ok id) ∧
    Function.Injective ReadOffset.argument ∧
    ∀ text : String,
      ((∃ id, read text = .ok id) ↔
        ∃ millis seq, Spells text.toList millis seq ∧ millis < 2 ^ 64 ∧ seq < 2 ^ 64) ∧
      ∀ id, read text = .ok id ↔ Spells text.toList id.millis.toNat id.seq.toNat :=
  ⟨fun id => ⟨read_display id, read_cutoffText id⟩, argument_injective,
    fun text => ⟨exists_read_iff text, read_eq_ok_iff text⟩⟩

end StreamId

end Streams

end AccessFeed
