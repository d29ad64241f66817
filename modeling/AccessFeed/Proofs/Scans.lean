/-
This file proves that scanning takes back what was written.

A number written with the width of its part, a fraction of a second and an
offset are each taken whole, whatever stands behind them, as long as that cannot
be taken for more of the same. Whether a fraction has more than nine digits makes
no difference but to its value.
-/

import AccessFeed.Calendar.Scan
import AccessFeed.Proofs.Spellings

namespace AccessFeed

namespace Text

/-- A text that is not empty and has no blanks. -/
def Solid (text : List Char) : Prop :=
  text ≠ [] ∧ ∀ c ∈ text, isBlank c = false

theorem solid_padded (width value : Nat) : Solid (padded width (digitsOf value)) := by
  refine ⟨(isDigits_padded width value).some, ?_⟩
  intro c member
  obtain ⟨digit, rfl⟩ := mem_padded member
  exact isBlank_digitChar digit

/-- Skipping stops at a text without blanks. -/
theorem skipBlanks_append {text : List Char} (solid : Solid text) (rest : List Char) :
    skipBlanks (text ++ rest) = text ++ rest := by
  obtain ⟨c, others, rfl⟩ := List.exists_cons_of_ne_nil solid.1
  rw [List.cons_append, skipBlanks, List.dropWhile_cons_of_neg]
  rw [solid.2 c List.mem_cons_self]
  exact Bool.false_ne_true

theorem skipBlanks_blanks {blanks : List Char} (all : ∀ c ∈ blanks, isBlank c = true)
    (rest : List Char) : skipBlanks (blanks ++ rest) = skipBlanks rest :=
  List.dropWhile_append_of_pos all

/-- A text with no blank at its end. -/
def EndsSolid (text : List Char) : Prop :=
  ∃ ahead back, text = ahead ++ back ∧ Solid back

theorem Solid.ends {text : List Char} (solid : Solid text) : EndsSolid text :=
  ⟨[], text, rfl, solid⟩

theorem EndsSolid.append {text : List Char} (ends : EndsSolid text) (before : List Char) :
    EndsSolid (before ++ text) := by
  obtain ⟨ahead, back, rfl, solid⟩ := ends
  exact ⟨before ++ ahead, back, (List.append_assoc _ _ _).symm, solid⟩

/-- Trimming takes the blanks around a text that has none at its ends. -/
theorem trimmed_surrounded {before after front behind : List Char}
    (blankBefore : ∀ c ∈ before, isBlank c = true) (blankAfter : ∀ c ∈ after, isBlank c = true)
    (begins : Solid front) (ends : EndsSolid (front ++ behind)) :
    trimmed (before ++ (front ++ behind) ++ after) = front ++ behind := by
  obtain ⟨ahead, back, split, solid⟩ := ends
  have first : skipBlanks (before ++ (front ++ behind) ++ after) = front ++ behind ++ after := by
    rw [List.append_assoc, skipBlanks_blanks blankBefore, List.append_assoc,
      skipBlanks_append begins]
  have blankReversed : ∀ c ∈ after.reverse, isBlank c = true :=
    fun c member => blankAfter c (List.mem_reverse.mp member)
  have solidReversed : Solid back.reverse :=
    ⟨fun empty => solid.1 (List.reverse_eq_nil_iff.mp empty),
      fun c member => solid.2 c (List.mem_reverse.mp member)⟩
  have last : skipBlanks (front ++ behind ++ after).reverse = (front ++ behind).reverse := by
    rw [List.reverse_append, skipBlanks_blanks blankReversed, split, List.reverse_append,
      skipBlanks_append solidReversed]
  rw [trimmed, first, last, List.reverse_reverse]

/-- Two digits are the tens and the ones. -/
theorem padded_two {value : Nat} (small : value < 100) :
    padded 2 (digitsOf value) = [digitChar (value / 10), digitChar (value % 10)] := by
  by_cases single : value < 10
  · rw [digitsOf_of_lt_ten single, Nat.div_eq_of_lt single, Nat.mod_eq_of_lt single]
    rfl
  · rw [digitsOf_of_ten_le (by omega), digitsOf_of_lt_ten (by omega), digitChar_mod]
    rfl

end Text

namespace Calendar

namespace Scan

open Text (Digitless digitsOf padded)

/-! ### Numbers -/

theorem digitless_take {count : Nat} {text : List Char} (stops : count ≠ 0 → Digitless text) :
    Digitless (text.take count) := by
  intro c rest begins
  cases count with
  | zero => cases begins
  | succ count =>
    cases text with
    | nil => cases begins
    | cons first others =>
      obtain ⟨rfl, -⟩ := List.cons.inj begins
      exact stops (Nat.succ_ne_zero count) first others rfl

/-- Digits are taken up to a width, and all of them if no other digit stands behind them. -/
theorem takeNumber_digits {least width : Nat} {digits rest : List Char}
    (are : ∀ c ∈ digits, Text.isDigit c = true) (stops : digits.length < width → Digitless rest)
    (enough : least ≤ (digits.take width).length)
    (small : Text.digitsValue 0 (digits.take width) ≤ greatestNumber) :
    takeNumber least width (digits ++ rest) =
      .ok (Text.digitsValue 0 (digits.take width), digits.drop width ++ rest) := by
  have taken : ((digits ++ rest).take width).takeWhile Text.isDigit = digits.take width := by
    rw [List.take_append]
    refine Text.takeWhile_digits (fun c member => are c (List.mem_of_mem_take member)) ?_
    exact digitless_take fun room => stops (by omega)
  have whole : digits ++ rest = digits.take width ++ (digits.drop width ++ rest) := by
    rw [← List.append_assoc, List.take_append_drop]
  have left : (digits ++ rest).drop (digits.take width).length = digits.drop width ++ rest := by
    rw [whole, List.drop_left]
  simp only [takeNumber, taken, left]
  rw [if_neg (Nat.not_lt.mpr enough), if_neg (Nat.not_lt.mpr small)]

/-- A number written with a width is taken with this width. -/
theorem takeNumber_padded {least width value : Nat} (wide : width ≠ 0) (within : least ≤ width)
    (small : value < 10 ^ width) (countable : value ≤ greatestNumber) (rest : List Char) :
    takeNumber least width (padded width (digitsOf value) ++ rest) = .ok (value, rest) := by
  have length := Text.length_padded wide small
  have all : (padded width (digitsOf value)).take width = padded width (digitsOf value) :=
    List.take_of_length_le (Nat.le_of_eq length)
  have none : (padded width (digitsOf value)).drop width = [] :=
    List.drop_eq_nil_of_le (Nat.le_of_eq length)
  have taken := @takeNumber_digits least width (padded width (digitsOf value)) rest
    (Text.isDigits_padded width value).digits (fun short => absurd short (by omega))
  rw [all, none, Text.digitsValue_padded, length] at taken
  exact taken within countable

theorem countable_of_width {part : Part} {value : Nat} (small : value < 10 ^ Part.width part) :
    value ≤ greatestNumber := by
  have most : 10 ^ Part.width part ≤ 10 ^ 4 := by cases part <;> decide
  have greatest : 10 ^ 4 ≤ greatestNumber := by decide
  omega

/-- The number of a part is taken whole. -/
theorem takePart_padded (part : Part) {value : Nat} (small : value < 10 ^ Part.width part)
    (rest : List Char) :
    takePart part (padded (Part.width part) (digitsOf value) ++ rest) =
      .ok ((value : Int), rest) := by
  have wide : Part.width part ≠ 0 := by cases part <;> decide
  have taken := @takeNumber_padded 1 _ _ wide (Nat.one_le_iff_ne_zero.mpr wide) small
    (countable_of_width small) rest
  have blankless := Text.skipBlanks_append (Text.solid_padded (Part.width part) value) rest
  -- no digit is taken for the sign of a year
  have begins : ∀ (c : Char) (behind : List Char),
      Text.skipBlanks (padded (Part.width part) (digitsOf value) ++ rest) = c :: behind →
        Text.isDigit c = true := by
    intro c behind same
    obtain ⟨first, others, digits, digit⟩ :=
      (Text.isDigits_padded (Part.width part) value).exists_cons
    rw [blankless, digits, List.cons_append] at same
    obtain ⟨rfl, -⟩ := List.cons.inj same
    exact digit
  rw [takePart, blankless, taken]
  · rfl
  · exact fun behind _ same => absurd (begins '-' behind same) (by decide)
  · exact fun behind _ same => absurd (begins '+' behind same) (by decide)

/-- Whether a value is one that a part can have. -/
def Part.Admits (part : Part) (value : Nat) : Prop :=
  (Part.range part).1 ≤ (value : Int) ∧ (value : Int) ≤ (Part.range part).2

theorem setChecked_of_admits {part : Part} {value : Nat} (admits : Part.Admits part value)
    (parts : Parts) : setChecked parts part value = .ok (setPart parts part value) :=
  if_pos admits

/-- The number of a part is taken for its value. -/
theorem takePiece_number {part : Part} {value : Nat} (small : value < 10 ^ Part.width part)
    (admits : Part.Admits part value) (parts : Parts) (rest : List Char) :
    takePiece parts (.number part) (padded (Part.width part) (digitsOf value) ++ rest) =
      .ok (setPart parts part value, rest) := by
  rw [takePiece, takePart_padded part small]
  show (setChecked parts part value >>= fun parts => pure (parts, rest)) = _
  rw [setChecked_of_admits admits]
  rfl

/-! ### Fractions -/

/-- The digits of a fraction as they are written. -/
def fractionDigits (digits : List (Fin 10)) : List Char :=
  digits.map fun digit => Text.digitChar digit.val

/-- The value of the digits of a fraction in units of `10 ^ places` to the whole; digits behind
that many do not count. -/
def fractionUnits : Nat → List (Fin 10) → Nat
  | 0, _ => 0
  | _, [] => 0
  | places + 1, digit :: rest => digit.val * 10 ^ places + fractionUnits places rest

theorem fractionUnits_nil (places : Nat) : fractionUnits places [] = 0 := by
  cases places <;> rfl

theorem isDigit_fractionDigits (digits : List (Fin 10)) :
    ∀ c ∈ fractionDigits digits, Text.isDigit c = true := by
  intro c member
  obtain ⟨digit, -, rfl⟩ := List.mem_map.mp member
  exact Text.isDigit_digitChar digit

theorem digitsValue_cons (digit : Fin 10) (text : List Char) :
    Text.digitsValue 0 (Text.digitChar digit.val :: text) =
      digit.val * 10 ^ text.length + Text.digitsValue 0 text := by
  have value : ∀ digit : Fin 10, (Text.digitChar digit.val).toNat - 48 = digit.val := by decide
  show Text.digitsValue (0 * 10 + ((Text.digitChar digit.val).toNat - 48)) text = _
  rw [Text.digitsValue_eq, value digit, Nat.zero_mul, Nat.zero_add]

theorem digitsValue_fractionDigits_lt (digits : List (Fin 10)) :
    Text.digitsValue 0 (fractionDigits digits) < 10 ^ digits.length := by
  induction digits with
  | nil => exact Nat.one_pos
  | cons digit rest inductionHypothesis =>
    show Text.digitsValue 0 (Text.digitChar digit.val :: fractionDigits rest) < _
    have most : digit.val * 10 ^ rest.length ≤ 9 * 10 ^ rest.length :=
      Nat.mul_le_mul_right _ (by omega)
    rw [digitsValue_cons, fractionDigits, List.length_map, List.length_cons, Nat.pow_succ]
    rw [fractionDigits] at inductionHypothesis
    omega

/-- The digits up to a count, filled up with zeros to that count, have the fraction's value. -/
theorem fractionUnits_eq (places : Nat) (digits : List (Fin 10)) :
    Text.digitsValue 0 (fractionDigits (digits.take places)) *
        10 ^ (places - (digits.take places).length) = fractionUnits places digits := by
  induction digits generalizing places with
  | nil =>
    rw [List.take_nil, fractionUnits_nil]
    exact Nat.zero_mul _
  | cons digit rest inductionHypothesis =>
    cases places with
    | zero => exact Nat.zero_mul _
    | succ places =>
      have short : (rest.take places).length ≤ places := by
        rw [List.length_take]
        omega
      rw [List.take_succ_cons, List.length_cons, Nat.succ_sub_succ, fractionUnits,
        ← inductionHypothesis places]
      show Text.digitsValue 0 (Text.digitChar digit.val :: fractionDigits (rest.take places)) *
        10 ^ (places - (rest.take places).length) = _
      rw [digitsValue_cons, fractionDigits, List.length_map, Nat.add_mul, Nat.mul_assoc,
        ← Nat.pow_add, Nat.add_sub_cancel' short]

/-- The digits of a fraction are taken for nanoseconds. -/
theorem takeFraction_digits {digits : List (Fin 10)} (some : digits ≠ []) {rest : List Char}
    (stops : Digitless rest) :
    takeFraction (fractionDigits digits ++ rest) = .ok (fractionUnits 9 digits, rest) := by
  have first : (fractionDigits digits).take 9 = fractionDigits (digits.take 9) :=
    List.map_take.symm
  have length : (fractionDigits (digits.take 9)).length = (digits.take 9).length :=
    List.length_map _
  have short : (digits.take 9).length ≤ 9 := List.length_take_le 9 digits
  have nonempty : 1 ≤ (digits.take 9).length := by
    have := List.length_pos_iff.mpr some
    rw [List.length_take]
    omega
  have small : Text.digitsValue 0 (fractionDigits (digits.take 9)) ≤ greatestNumber := by
    have below := digitsValue_fractionDigits_lt (digits.take 9)
    have most : 10 ^ (digits.take 9).length ≤ 10 ^ 9 := Nat.pow_le_pow_right (by decide) short
    have greatest : 10 ^ 9 ≤ greatestNumber := by decide
    omega
  have taken := @takeNumber_digits 1 9 (fractionDigits digits) rest
    (isDigit_fractionDigits digits) (fun _ => stops) (by rwa [first, length])
    (by rwa [first])
  have behind : ((fractionDigits digits).drop 9 ++ rest).dropWhile Text.isDigit = rest :=
    Text.dropWhile_digits
      (fun c member => isDigit_fractionDigits digits c (List.mem_of_mem_drop member)) stops
  have count : (fractionDigits digits ++ rest).length -
      ((fractionDigits digits).drop 9 ++ rest).length = (digits.take 9).length := by
    simp only [List.length_append, List.length_drop, List.length_take, fractionDigits,
      List.length_map]
    omega
  rw [takeFraction, taken]
  show Except.ok (Text.digitsValue 0 ((fractionDigits digits).take 9) *
    10 ^ (9 - ((fractionDigits digits ++ rest).length -
      ((fractionDigits digits).drop 9 ++ rest).length)), _) = _
  rw [behind, count, first, fractionUnits_eq]

/-! ### Offsets -/

theorem takeSign_written (negative : Bool) (rest : List Char) :
    takeSign ((if negative then '-' else '+') :: rest) = .ok (negative, rest) := by
  cases negative <;> rfl

/-- A pair of digits is taken for a number below a hundred. -/
theorem takePair_padded {value : Nat} (small : value < 100) (rest : List Char) :
    takePair (padded 2 (digitsOf value) ++ rest) = .ok (value, rest) := by
  rw [Text.padded_two small, List.cons_append, List.cons_append, List.nil_append, takePair,
    Text.digitValue?_digitChar (by omega), Text.digitValue?_digitChar (by omega)]
  dsimp only
  rw [Nat.div_add_mod']

/-- An offset is taken if what separates its hours from its minutes is. -/
theorem takeOffset_written {separator : List Char → Except ScanFault (List Char)} (negative : Bool)
    {hours minutes : Nat} (hoursSmall : hours < 100) (minutesSmall : minutes < 60)
    {between rest : List Char}
    (separates : separator (between ++ (padded 2 (digitsOf minutes) ++ rest)) =
      .ok (padded 2 (digitsOf minutes) ++ rest)) :
    takeOffset separator ((if negative then '-' else '+') :: (padded 2 (digitsOf hours) ++
      (between ++ (padded 2 (digitsOf minutes) ++ rest)))) =
      .ok (if negative then -((hours : Int) * 3600 + minutes * 60)
        else (hours : Int) * 3600 + minutes * 60, rest) := by
  rw [takeOffset, takeSign_written]
  dsimp only [bind, Except.bind]
  rw [takePair_padded hoursSmall]
  dsimp only
  rw [separates]
  dsimp only
  rw [takePair_padded (by omega)]
  dsimp only
  rw [if_neg (by omega)]
  rfl

/-- Without what separates them, hours are no offset. -/
theorem takeOffset_refused {separator : List Char → Except ScanFault (List Char)} (negative : Bool)
    {hours : Nat} (small : hours < 100) {rest : List Char} {fault : ScanFault}
    (refuses : separator rest = .error fault) :
    takeOffset separator ((if negative then '-' else '+') :: (padded 2 (digitsOf hours) ++ rest)) =
      .error fault := by
  rw [takeOffset, takeSign_written]
  dsimp only [bind, Except.bind]
  rw [takePair_padded small]
  dsimp only
  rw [refuses]

/-! ### Patterns -/

/-- Whether pieces take the front of a text, and what they leave of it. -/
def Takes (pieces : List Piece) (parts : Parts) (text : List Char) (taken : Parts)
    (rest : List Char) : Prop :=
  ∀ more, byPattern parts (pieces ++ more) text = byPattern taken more rest

theorem takes_nil (parts : Parts) (text : List Char) : Takes [] parts text parts text :=
  fun _ => rfl

theorem takes_cons {piece : Piece} {pieces : List Piece} {parts middle taken : Parts}
    {text behind rest : List Char} (first : takePiece parts piece text = .ok (middle, behind))
    (others : Takes pieces middle behind taken rest) :
    Takes (piece :: pieces) parts text taken rest := by
  intro more
  rw [List.cons_append, byPattern, first]
  exact others more

end Scan

end Calendar

end AccessFeed
