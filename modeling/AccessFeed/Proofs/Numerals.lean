/-
This file proves that written numbers are read back.

A whole number is read back as it is. A binary floating-point number is written
with a given count of decimal places, and what is read back is the number
nearest to the decimal that was written; the infinities and NaN are read back as
such. None of these texts has a blank in it, so that readers which trim their
texts first read them just so.
-/

import Mathlib.Algebra.Group.Nat.Defs
import Mathlib.Data.List.TakeWhile
import AccessFeed.Binary64.Printer
import AccessFeed.Binary64.Reader
import AccessFeed.Proofs.Ids
import AccessFeed.Text.Blank

namespace AccessFeed

namespace Text

/-! ### Texts without blanks -/

theorem skipBlanks_of_none {text : List Char} (none : ∀ c ∈ text, isBlank c = false) :
    skipBlanks text = text := by
  cases text with
  | nil => rfl
  | cons c rest =>
    rw [skipBlanks, List.dropWhile_cons_of_neg]
    rw [none c List.mem_cons_self]
    exact Bool.false_ne_true

/-- A text without blanks is trimmed to itself. -/
theorem trimmed_of_none {text : List Char} (none : ∀ c ∈ text, isBlank c = false) :
    trimmed text = text := by
  have reversed : ∀ c ∈ text.reverse, isBlank c = false :=
    fun c member => none c (List.mem_reverse.mp member)
  rw [trimmed, skipBlanks_of_none none, skipBlanks_of_none reversed, List.reverse_reverse]

theorem unblank_of_all {text : List Char} (told : (text.all fun c => !isBlank c) = true) :
    ∀ c ∈ text, isBlank c = false :=
  fun c member => (Bool.not_eq_true' _).mp (List.all_eq_true.mp told c member)

theorem isBlank_digitChar : ∀ digit : Fin 10, isBlank (digitChar digit.val) = false := by
  decide

theorem isBlank_digitsOf (value : Nat) : ∀ c ∈ digitsOf value, isBlank c = false := by
  intro c member
  obtain ⟨digit, rfl⟩ := mem_digitsOf member
  exact isBlank_digitChar digit

theorem isDigit_digitsOf (value : Nat) : ∀ c ∈ digitsOf value, isDigit c = true := by
  intro c member
  obtain ⟨digit, rfl⟩ := mem_digitsOf member
  exact (by decide : ∀ digit : Fin 10, isDigit (digitChar digit.val) = true) digit

/-! ### Signed numbers -/

theorem toList_signedDecimal (value : Int) :
    (signedDecimal value).toList =
      if value < 0 then '-' :: digitsOf value.natAbs else digitsOf value.toNat := by
  rw [signedDecimal]
  split <;> simp [decimal]

theorem isBlank_signedDecimal (value : Int) :
    ∀ c ∈ (signedDecimal value).toList, isBlank c = false := by
  intro c member
  rw [toList_signedDecimal] at member
  split at member
  · rcases List.mem_cons.mp member with rfl | digit
    · decide
    · exact isBlank_digitsOf _ c digit
  · exact isBlank_digitsOf _ c member

/-- A written signed number is read back if it is within the bounds. -/
theorem readInt_signedDecimal {least greatest : Nat} {value : Int} (low : -(least : Int) ≤ value)
    (high : value ≤ greatest) :
    readInt least greatest (signedDecimal value).toList = .ok value := by
  rw [toList_signedDecimal]
  by_cases negative : value < 0
  · have digits := boundedDigits_digitsOf (by omega : value.natAbs ≤ least) .tooSmall []
    rw [List.append_nil, boundedDigits] at digits
    have magnitude : -((value.natAbs : Nat) : Int) = value := by omega
    rw [if_pos negative, readInt]
    · rw [digits]
      exact congrArg Except.ok magnitude
    · exact fun lone => digitsOf_ne_nil _ lone
  · have digits := boundedDigits_digitsOf (by omega : value.toNat ≤ greatest) .tooLarge []
    rw [List.append_nil, boundedDigits] at digits
    have unsigned : ∀ c ∈ ['+', '-'], c ∉ digitsOf value.toNat := by
      intro c sign
      refine not_mem_digitsOf fun digit => ?_
      rcases List.mem_cons.mp sign with rfl | minus
      · revert digit
        decide
      · obtain rfl := List.mem_singleton.mp minus
        revert digit
        decide
    rw [if_neg negative, readInt.eq_def]
    split
    · rename_i empty
      exact absurd empty (digitsOf_ne_nil _)
    · rename_i lone
      exact absurd (lone ▸ List.mem_cons_self) (unsigned '+' (by decide))
    · rename_i lone
      exact absurd (lone ▸ List.mem_cons_self) (unsigned '-' (by decide))
    · rename_i signed
      exact absurd (signed ▸ List.mem_cons_self) (unsigned '+' (by decide))
    · rename_i signed
      exact absurd (signed ▸ List.mem_cons_self) (unsigned '-' (by decide))
    · rw [digits]
      exact congrArg Except.ok (Int.toNat_of_nonneg (by omega))

/-! ### The value of digits -/

theorem digitsValue_append (value : Nat) (first second : List Char) :
    digitsValue value (first ++ second) = digitsValue (digitsValue value first) second := by
  induction first generalizing value with
  | nil => rfl
  | cons c rest inductionHypothesis => exact inductionHypothesis _

/-- Digits behind a number move it to the left by their count. -/
theorem digitsValue_eq (value : Nat) (text : List Char) :
    digitsValue value text = value * 10 ^ text.length + digitsValue 0 text := by
  induction text generalizing value with
  | nil => exact (Nat.mul_one value).symm
  | cons c rest inductionHypothesis =>
    have moved : ∀ start, digitsValue start (c :: rest) =
        (start * 10 + (c.toNat - 48)) * 10 ^ rest.length + digitsValue 0 rest :=
      fun start => inductionHypothesis _
    rw [moved value, moved 0, List.length_cons, Nat.pow_succ', Nat.add_mul, Nat.add_mul,
      Nat.mul_assoc, Nat.zero_mul, Nat.zero_add, Nat.add_assoc]

theorem digitsValue_singleton (before value : Nat) :
    digitsValue before [digitChar value] = before * 10 + value % 10 := by
  have digit : ∀ digit : Fin 10, (digitChar digit.val).toNat - 48 = digit.val := by decide
  show before * 10 + ((digitChar value).toNat - 48) = _
  rw [← digitChar_mod, digit ⟨value % 10, Nat.mod_lt value (by omega)⟩]

theorem digitsValue_digitsOf (value : Nat) : digitsValue 0 (digitsOf value) = value := by
  induction value using Nat.strongRecOn with
  | _ value inductionHypothesis =>
    by_cases small : value < 10
    · rw [digitsOf_of_lt_ten small, digitsValue_singleton]
      omega
    · rw [digitsOf_of_ten_le (by omega), digitsValue_append, inductionHypothesis _ (by omega),
        digitsValue_singleton]
      exact Nat.div_add_mod' value 10

theorem length_digitsOf_le {width value : Nat} (wide : width ≠ 0) (small : value < 10 ^ width) :
    (digitsOf value).length ≤ width := by
  induction width generalizing value with
  | zero => exact absurd rfl wide
  | succ width inductionHypothesis =>
    by_cases single : value < 10
    · rw [digitsOf_of_lt_ten single]
      exact Nat.succ_le_succ (Nat.zero_le width)
    · have rest : value / 10 < 10 ^ width := by
        rw [Nat.div_lt_iff_lt_mul (by omega), ← Nat.pow_succ]
        exact small
      have wider : width ≠ 0 := by
        rintro rfl
        omega
      rw [digitsOf_of_ten_le (by omega), List.length_append]
      exact Nat.succ_le_succ (inductionHypothesis wider rest)

theorem length_padded {width value : Nat} (wide : width ≠ 0) (small : value < 10 ^ width) :
    (padded width (digitsOf value)).length = width := by
  have fits := length_digitsOf_le wide small
  rw [padded, List.length_append, List.length_replicate]
  omega

theorem digitsValue_padded (width value : Nat) :
    digitsValue 0 (padded width (digitsOf value)) = value := by
  have zeros : ∀ count, digitsValue 0 (List.replicate count '0') = 0 := by
    intro count
    induction count with
    | zero => rfl
    | succ count inductionHypothesis => exact inductionHypothesis
  rw [padded, digitsValue_append, zeros, digitsValue_digitsOf]

theorem mem_padded {width value : Nat} {c : Char} (member : c ∈ padded width (digitsOf value)) :
    ∃ digit : Fin 10, c = digitChar digit.val := by
  rcases List.mem_append.mp member with zero | digit
  · exact ⟨0, (List.mem_replicate.mp zero).2⟩
  · exact mem_digitsOf digit

end Text

/-! ### Binary floating-point numbers -/

namespace Binary64

/-- The number that a number with a given count of decimal places denotes when it is read: the one
nearest to the decimal it is written as. -/
def atPlaces (x : Binary64) (places : Nat) : Binary64 :=
  if x.isNaN then nan false
  else if x.isInfinite then infinity x.isNegative
  else ofDecimal x.isNegative (x.fixedUnits places) (-(places : Int))

theorem toList_unitsText {places : Nat} (some : places ≠ 0) (units : Nat) :
    (unitsText units places).toList =
      Text.digitsOf (units / 10 ^ places) ++
        '.' :: Text.padded places (Text.digitsOf (units % 10 ^ places)) := by
  rw [unitsText, if_neg some]
  simp [Text.decimal, Text.paddedDecimal]

/-- Digits around a point are read as what they count. -/
theorem readDecimal?_unitsText {places : Nat} (some : places ≠ 0) (units : Nat) :
    readDecimal? (unitsText units places).toList = .some ⟨units, -(places : Int)⟩ := by
  have wholeDigits := Text.isDigit_digitsOf (units / 10 ^ places)
  have partDigits : ∀ c ∈ Text.padded places (Text.digitsOf (units % 10 ^ places)),
      Text.isDigit c = true := by
    intro c member
    obtain ⟨digit, rfl⟩ := Text.mem_padded member
    exact (by decide : ∀ digit : Fin 10, Text.isDigit (Text.digitChar digit.val) = true) digit
  have small : units % 10 ^ places < 10 ^ places := Nat.mod_lt _ (Nat.pow_pos (by omega))
  have length := Text.length_padded some small
  have value : Text.digitsValue 0 (Text.digitsOf (units / 10 ^ places) ++
      Text.padded places (Text.digitsOf (units % 10 ^ places))) = units := by
    rw [Text.digitsValue_append, Text.digitsValue_digitsOf, Text.digitsValue_eq, length,
      Text.digitsValue_padded]
    exact Nat.div_add_mod' units (10 ^ places)
  rw [toList_unitsText some, readDecimal?]
  generalize Text.padded places (Text.digitsOf (units % 10 ^ places)) = part at *
  have nonempty := Text.digitsOf_ne_nil (units / 10 ^ places)
  generalize Text.digitsOf (units / 10 ^ places) = whole at *
  have point : Text.isDigit '.' = false := by decide
  have taken : (whole ++ '.' :: part).takeWhile Text.isDigit = whole := by
    rw [List.takeWhile_append_of_pos wholeDigits, List.takeWhile_cons_of_neg (by simp [point]),
      List.append_nil]
  have dropped : (whole ++ '.' :: part).dropWhile Text.isDigit = '.' :: part := by
    rw [List.dropWhile_append_of_pos wholeDigits, List.dropWhile_cons_of_neg (by simp [point])]
  have partTaken : part.takeWhile Text.isDigit = part := List.takeWhile_eq_self_iff.mpr partDigits
  have partDropped : part.dropWhile Text.isDigit = [] := List.dropWhile_eq_nil_iff.mpr partDigits
  simp only [taken, dropped, partTaken, partDropped, value, length]
  rw [List.isEmpty_eq_false_iff.mpr nonempty]
  rfl

theorem splitSign_digits {text : List Char} {value : Nat}
    (begins : ∃ rest, text = Text.digitsOf value ++ rest) : splitSign text = (false, text) := by
  obtain ⟨rest, rfl⟩ := begins
  cases digits : Text.digitsOf value with
  | nil => exact absurd digits (Text.digitsOf_ne_nil value)
  | cons c others =>
    obtain ⟨digit, rfl⟩ := Text.mem_digitsOf (digits ▸ List.mem_cons_self : c ∈ _)
    have signs : ∀ digit : Fin 10, Text.digitChar digit.val ≠ '+' ∧
        Text.digitChar digit.val ≠ '-' := by decide
    rw [List.cons_append, splitSign.eq_def]
    split
    · rename_i same
      exact absurd (List.cons.inj same).1 (signs digit).1
    · rename_i same
      exact absurd (List.cons.inj same).1 (signs digit).2
    · rfl

theorem read_unitsText (negative : Bool) {places : Nat} (some : places ≠ 0) (units : Nat) :
    read ((if negative then "-" else "") ++ unitsText units places).toList =
      .ok (ofDecimal negative units (-(places : Int))) := by
  have decimal := readDecimal?_unitsText some units
  have sign : splitSign ((if negative then "-" else "") ++ unitsText units places).toList =
      (negative, (unitsText units places).toList) := by
    cases negative with
    | true =>
      rw [if_pos rfl, String.toList_append]
      rfl
    | false =>
      rw [if_neg Bool.false_ne_true, String.empty_append]
      exact splitSign_digits ⟨_, toList_unitsText some units⟩
  have written : ((if negative then "-" else "") ++ unitsText units places).toList ≠ [] := by
    intro empty
    rw [empty] at sign
    rw [← (Prod.mk.inj sign).2] at decimal
    cases decimal
  rw [read, List.isEmpty_eq_false_iff.mpr written, sign]
  simp only [decimal]
  rfl

theorem read_nan : read "NaN".toList = .ok (nan false) := by
  decide

theorem read_infinity (negative : Bool) :
    read (if negative then "-inf" else "inf").toList = .ok (infinity negative) := by
  cases negative <;> decide

/-- A number written with decimal places is read back as the number nearest to what is written. -/
theorem read_fixed (x : Binary64) {places : Nat} (some : places ≠ 0) :
    read (x.fixed places).toList = .ok (x.atPlaces places) := by
  rw [fixed, unusualText?, atPlaces]
  by_cases nan : x.isNaN = true
  · rw [if_pos nan, if_pos nan]
    exact read_nan
  rw [if_neg nan, if_neg nan]
  by_cases infinite : x.isInfinite = true
  · rw [if_pos infinite, if_pos infinite]
    exact read_infinity x.isNegative
  · rw [if_neg infinite, if_neg infinite]
    exact read_unitsText x.isNegative some _

theorem isBlank_fixed (x : Binary64) {places : Nat} (some : places ≠ 0) :
    ∀ c ∈ (x.fixed places).toList, Text.isBlank c = false := by
  rw [fixed, unusualText?]
  split
  · rename_i text same
    split at same
    · obtain rfl := Option.some.inj same
      exact Text.unblank_of_all (by decide)
    · split at same
      · obtain rfl := Option.some.inj same
        cases x.isNegative <;> exact Text.unblank_of_all (by decide)
      · cases same
  · intro c member
    rw [String.toList_append, toList_unitsText some] at member
    rcases List.mem_append.mp member with sign | digits
    · revert sign
      rw [signText]
      cases x.isNegative with
      | true => exact fun sign => List.mem_singleton.mp sign ▸ by decide
      | false => exact fun sign => absurd sign List.not_mem_nil
    · rcases List.mem_append.mp digits with whole | part
      · exact Text.isBlank_digitsOf _ c whole
      · rcases List.mem_cons.mp part with rfl | digit
        · decide
        · obtain ⟨value, rfl⟩ := Text.mem_padded digit
          exact Text.isBlank_digitChar value

end Binary64

end AccessFeed
