/-
This file says which texts spell numbers, and which numbers they spell.

The grammars stand here by themselves: a whole number is digits behind an
optional sign, and a binary floating-point number is digits with an optional
point and an optional exponent, or one of the words for what is not finite. What
is proved is that each reader accepts the texts of its grammar and no others,
and reads what they spell, as far as it is within the reader's bounds.
-/

import AccessFeed.Proofs.Numerals

namespace AccessFeed

namespace Text

/-- What stands in front of a number. -/
inductive Sign
  | none
  | plus
  | minus
deriving DecidableEq, Repr

/-- A sign as it is written. -/
def Sign.text : Sign → List Char
  | .none => []
  | .plus => ['+']
  | .minus => ['-']

/-- Whether a sign makes a number negative. -/
def Sign.isNegative : Sign → Bool
  | .minus => true
  | _ => false

/-- A number with a sign in front of it. -/
def Sign.apply (sign : Sign) (value : Nat) : Int :=
  if sign.isNegative then -(value : Int) else value

/-- Whether a text is one or more ASCII digits. -/
structure IsDigits (text : List Char) : Prop where
  some : text ≠ []
  digits : ∀ c ∈ text, isDigit c = true

/-- A text spells a number that is not negative: digits, with or without a plus sign. -/
inductive SpellsNat : List Char → Nat → Prop
  | bare {digits : List Char} (are : IsDigits digits) : SpellsNat digits (digitsValue 0 digits)
  | plus {digits : List Char} (are : IsDigits digits) :
    SpellsNat ('+' :: digits) (digitsValue 0 digits)

/-- A text spells a whole number: digits, with or without a sign. -/
inductive SpellsInt : List Char → Int → Prop
  | signed (sign : Sign) {digits : List Char} (are : IsDigits digits) :
    SpellsInt (sign.text ++ digits) (sign.apply (digitsValue 0 digits))

/-! ### Digits -/

theorem digitValue?_eq (c : Char) :
    digitValue? c = if isDigit c then some (c.toNat - 48) else none := by
  simp [digitValue?, isDigit]

theorem isDigit_digitChar : ∀ digit : Fin 10, isDigit (digitChar digit.val) = true := by
  decide

/-- A number filled up with zeros is made of digits. -/
theorem isDigits_padded (width value : Nat) : IsDigits (padded width (digitsOf value)) where
  some := fun empty => digitsOf_ne_nil value (List.append_eq_nil_iff.mp empty).2
  digits := by
    intro c member
    obtain ⟨digit, rfl⟩ := mem_padded member
    exact isDigit_digitChar digit

/-- No digit is a sign or a point. -/
theorem ne_of_isDigit {c other : Char} (digit : isDigit c = true)
    (different : isDigit other = false) : c ≠ other := by
  rintro rfl
  exact Bool.noConfusion (digit.symm.trans different)

theorem le_digitsValue (value : Nat) (text : List Char) : value ≤ digitsValue value text := by
  rw [digitsValue_eq]
  have power : 1 ≤ 10 ^ text.length := Nat.one_le_pow _ _ (by omega)
  have := Nat.le_mul_of_pos_right value power
  omega

/-- Under a bound, digits are read if their value stays within it. -/
theorem boundedDigits_eq_ok_iff {bound value : Nat} (within : value ≤ bound)
    (excess : NumeralFault) (text : List Char) (result : Nat) :
    boundedDigits bound excess value text = .ok result ↔
      (∀ c ∈ text, isDigit c = true) ∧ digitsValue value text = result ∧ result ≤ bound := by
  induction text generalizing value with
  | nil =>
    refine ⟨fun same => ?_, fun told => congrArg Except.ok told.2.1⟩
    obtain rfl := Except.ok.inj same
    exact ⟨List.forall_mem_nil _, rfl, within⟩
  | cons c rest inductionHypothesis =>
    show _ ↔ _ ∧ digitsValue (value * 10 + (c.toNat - 48)) rest = result ∧ _
    rw [boundedDigits, digitValue?_eq, List.forall_mem_cons]
    by_cases digit : isDigit c = true
    · rw [if_pos digit]
      dsimp only
      by_cases next : value * 10 + (c.toNat - 48) ≤ bound
      · rw [if_pos next, inductionHypothesis next, and_iff_right digit]
      · -- the value only grows from here on
        have grows := le_digitsValue (value * 10 + (c.toNat - 48)) rest
        rw [if_neg next]
        constructor
        · intro impossible
          cases impossible
        · rintro ⟨-, rfl, small⟩
          exact absurd (Nat.le_trans grows small) next
    · rw [if_neg digit]
      constructor
      · intro impossible
        cases impossible
      · exact fun told => absurd told.1.1 digit

/-! ### Whole numbers -/

theorem IsDigits.exists_cons {text : List Char} (are : IsDigits text) :
    ∃ c rest, text = c :: rest ∧ isDigit c = true := by
  obtain ⟨c, rest, rfl⟩ := List.exists_cons_of_ne_nil are.some
  exact ⟨c, rest, rfl, are.digits c List.mem_cons_self⟩

theorem readNat_plus (bound : Nat) {text : List Char} (some : text ≠ []) :
    readNat bound ('+' :: text) = boundedDigits bound .tooLarge 0 text := by
  obtain ⟨c, rest, rfl⟩ := List.exists_cons_of_ne_nil some
  rfl

theorem readNat_bare (bound : Nat) {c : Char} (rest : List Char) (unsigned : c ≠ '+') :
    readNat bound (c :: rest) = boundedDigits bound .tooLarge 0 (c :: rest) := by
  rw [readNat.eq_def]
  split <;> simp_all

/-- The reader of numbers that are not negative accepts what spells one within its bound. -/
theorem readNat_eq_ok_iff (bound : Nat) (text : List Char) (value : Nat) :
    readNat bound text = .ok value ↔ SpellsNat text value ∧ value ≤ bound := by
  constructor
  · intro read
    cases text with
    | nil => cases read
    | cons c rest =>
      by_cases plus : c = '+'
      · subst plus
        cases rest with
        | nil => cases read
        | cons next rest =>
          rw [readNat_plus bound (List.cons_ne_nil next rest),
            boundedDigits_eq_ok_iff (Nat.zero_le bound)] at read
          obtain ⟨digits, rfl, within⟩ := read
          exact ⟨.plus ⟨List.cons_ne_nil next rest, digits⟩, within⟩
      · rw [readNat_bare bound rest plus, boundedDigits_eq_ok_iff (Nat.zero_le bound)] at read
        obtain ⟨digits, rfl, within⟩ := read
        exact ⟨.bare ⟨List.cons_ne_nil c rest, digits⟩, within⟩
  · rintro ⟨spells, within⟩
    cases spells with
    | plus are =>
      rw [readNat_plus bound are.some, boundedDigits_eq_ok_iff (Nat.zero_le bound)]
      exact ⟨are.digits, rfl, within⟩
    | bare are =>
      obtain ⟨c, rest, rfl, digit⟩ := are.exists_cons
      rw [readNat_bare bound rest (ne_of_isDigit digit (by decide)),
        boundedDigits_eq_ok_iff (Nat.zero_le bound)]
      exact ⟨are.digits, rfl, within⟩

/-! ### Signs -/

/-- Whether a text begins with no sign. -/
def Unsigned (text : List Char) : Prop :=
  ∀ c rest, text = c :: rest → c ≠ '+' ∧ c ≠ '-'

theorem IsDigits.unsigned {text : List Char} (are : IsDigits text) : Unsigned text := by
  rintro c rest rfl
  have digit := are.digits c List.mem_cons_self
  exact ⟨ne_of_isDigit digit (by decide), ne_of_isDigit digit (by decide)⟩

/-- Every text is a sign and what stands behind it. -/
theorem exists_sign (text : List Char) :
    ∃ (sign : Sign) (rest : List Char), text = sign.text ++ rest ∧
      (sign = .none → Unsigned rest) := by
  cases text with
  | nil => exact ⟨.none, [], rfl, fun _ _ _ impossible => nomatch impossible⟩
  | cons c rest =>
    by_cases plus : c = '+'
    · exact ⟨.plus, rest, plus ▸ rfl, fun impossible => nomatch impossible⟩
    · by_cases minus : c = '-'
      · exact ⟨.minus, rest, minus ▸ rfl, fun impossible => nomatch impossible⟩
      · refine ⟨.none, c :: rest, rfl, fun _ other behind same => ?_⟩
        obtain ⟨rfl, rfl⟩ := List.cons.inj same
        exact ⟨plus, minus⟩

/-- What stands behind a sign is read under the bound of its side. -/
theorem readInt_signed (least greatest : Nat) (sign : Sign) {text : List Char} (some : text ≠ [])
    (bare : sign = .none → Unsigned text) :
    readInt least greatest (sign.text ++ text) =
      (boundedDigits (if sign.isNegative then least else greatest)
        (if sign.isNegative then .tooSmall else .tooLarge) 0 text).map sign.apply := by
  obtain ⟨c, rest, rfl⟩ := List.exists_cons_of_ne_nil some
  cases sign with
  | plus => rfl
  | minus =>
    show (boundedDigits least .tooSmall 0 (c :: rest)).map (fun value => -(value : Int)) =
      (boundedDigits least .tooSmall 0 (c :: rest)).map Sign.minus.apply
    cases boundedDigits least .tooSmall 0 (c :: rest) <;> rfl
  | none =>
    obtain ⟨plus, minus⟩ := bare rfl c rest rfl
    show readInt least greatest (c :: rest) = _
    rw [readInt.eq_def]
    split <;> simp_all
    rfl

/-- The reader of whole numbers accepts what spells one within its bounds. -/
theorem readInt_eq_ok_iff (least greatest : Nat) (text : List Char) (value : Int) :
    readInt least greatest text = .ok value ↔
      SpellsInt text value ∧ -(least : Int) ≤ value ∧ value ≤ greatest := by
  have within : ∀ (sign : Sign) (count : Nat),
      count ≤ (if sign.isNegative then least else greatest) ↔
        -(least : Int) ≤ sign.apply count ∧ sign.apply count ≤ greatest := by
    intro sign count
    cases sign <;> simp only [Sign.isNegative, Sign.apply, Bool.false_eq_true, ↓reduceIte] <;> omega
  constructor
  · intro read
    obtain ⟨sign, rest, rfl, bare⟩ := exists_sign text
    by_cases empty : rest = []
    · subst empty
      cases sign <;> cases read
    · rw [readInt_signed least greatest sign empty bare] at read
      cases digits : boundedDigits (if sign.isNegative then least else greatest)
          (if sign.isNegative then .tooSmall else .tooLarge) 0 rest with
      | error fault =>
        rw [digits] at read
        cases read
      | ok count =>
        rw [digits] at read
        obtain rfl := Except.ok.inj read
        obtain ⟨are, rfl, small⟩ := (boundedDigits_eq_ok_iff (Nat.zero_le _) _ _ _).mp digits
        exact ⟨.signed sign ⟨empty, are⟩, (within sign _).mp small⟩
  · rintro ⟨⟨sign, are⟩, bounds⟩
    rw [readInt_signed least greatest sign are.some fun _ => are.unsigned,
      (boundedDigits_eq_ok_iff (Nat.zero_le _) _ _ _).mpr
        ⟨are.digits, rfl, (within sign _).mpr bounds⟩]
    rfl

/-! ### Digits and what follows them -/

/-- Whether a text begins with no digit. -/
def Digitless (text : List Char) : Prop :=
  ∀ c rest, text = c :: rest → isDigit c = false

theorem takeWhile_digits {digits rest : List Char} (are : ∀ c ∈ digits, isDigit c = true)
    (stops : Digitless rest) : (digits ++ rest).takeWhile isDigit = digits := by
  rw [List.takeWhile_append_of_pos are]
  cases rest with
  | nil => exact List.append_nil digits
  | cons c rest =>
    rw [List.takeWhile_cons_of_neg (by rw [stops c rest rfl]; exact Bool.false_ne_true),
      List.append_nil]

theorem dropWhile_digits {digits rest : List Char} (are : ∀ c ∈ digits, isDigit c = true)
    (stops : Digitless rest) : (digits ++ rest).dropWhile isDigit = rest := by
  rw [List.dropWhile_append_of_pos are]
  cases rest with
  | nil => rfl
  | cons c rest =>
    rw [List.dropWhile_cons_of_neg (by rw [stops c rest rfl]; exact Bool.false_ne_true)]

/-- Every text is digits and what stands behind them. -/
theorem exists_digits (text : List Char) :
    ∃ digits rest : List Char, text = digits ++ rest ∧ (∀ c ∈ digits, isDigit c = true) ∧
      Digitless rest := by
  refine ⟨text.takeWhile isDigit, text.dropWhile isDigit, List.takeWhile_append_dropWhile.symm,
    fun c member => List.mem_takeWhile_imp member, fun c rest behind => ?_⟩
  have head := List.head_dropWhile_not isDigit (l := text) (by simp [behind])
  simpa [behind] using head

end Text

namespace Binary64

open Text (Digitless IsDigits Sign SpellsInt Unsigned)

/-- A text spells the exponent of a decimal number: nothing, or a letter and a whole number. -/
inductive SpellsExponent : List Char → Int → Prop
  | none : SpellsExponent [] 0
  | some {letter : Char} {text : List Char} {value : Int} (marks : letter = 'e' ∨ letter = 'E')
    (spells : SpellsInt text value) : SpellsExponent (letter :: text) value

/-- A text spells a decimal number without a sign: digits, of which there is at least one, with or
without a point before, among or behind them, and an exponent. -/
inductive SpellsDecimal : List Char → Decimal → Prop
  | whole {digits text : List Char} {exponent : Int} (are : IsDigits digits)
    (scaled : SpellsExponent text exponent) :
    SpellsDecimal (digits ++ text) ⟨Text.digitsValue 0 digits, exponent⟩
  | pointed {digits part text : List Char} {exponent : Int} (are : IsDigits (digits ++ part))
    (scaled : SpellsExponent text exponent) :
    SpellsDecimal (digits ++ '.' :: (part ++ text))
      ⟨Text.digitsValue 0 (digits ++ part), -(part.length : Int) + exponent⟩

/-- A text spells a binary floating-point number: behind an optional sign a decimal number, which
stands for the number nearest to it, or one of the words for infinity and NaN in any case. -/
inductive Spells : List Char → Binary64 → Prop
  | decimal (sign : Sign) {text : List Char} {decimal : Decimal}
    (spells : SpellsDecimal text decimal) :
    Spells (sign.text ++ text) (ofDecimal sign.isNegative decimal.digits decimal.exponent)
  | infinity (sign : Sign) {word : List Char}
    (named : word.map Text.lowerAscii ∈ ["inf".toList, "infinity".toList]) :
    Spells (sign.text ++ word) (infinity sign.isNegative)
  | nan (sign : Sign) {word : List Char} (named : word.map Text.lowerAscii = "nan".toList) :
    Spells (sign.text ++ word) (nan sign.isNegative)

/-! ### Exponents and decimals -/

theorem splitSign_signed (sign : Sign) {text : List Char} (bare : sign = .none → Unsigned text) :
    splitSign (sign.text ++ text) = (sign.isNegative, text) := by
  cases sign with
  | plus => rfl
  | minus => rfl
  | none =>
    cases text with
    | nil => rfl
    | cons c rest =>
      obtain ⟨plus, minus⟩ := bare rfl c rest rfl
      show splitSign (c :: rest) = _
      rw [splitSign.eq_def]
      split <;> simp_all
      rfl

theorem readExponent?_signed (sign : Sign) {text : List Char}
    (bare : sign = .none → Unsigned text) :
    readExponent? (sign.text ++ text) =
      if text.isEmpty || !text.all Text.isDigit then none
      else some (sign.apply (Text.digitsValue 0 text)) := by
  rw [readExponent?, splitSign_signed sign bare]
  rfl

theorem readExponent?_eq_some_iff (text : List Char) (value : Int) :
    readExponent? text = some value ↔ SpellsInt text value := by
  constructor
  · intro read
    obtain ⟨sign, rest, rfl, bare⟩ := Text.exists_sign text
    rw [readExponent?_signed sign bare] at read
    split at read
    · cases read
    · rename_i digits
      obtain rfl := Option.some.inj read
      simp only [Bool.or_eq_true, List.isEmpty_iff, Bool.not_eq_true', not_or,
        Bool.not_eq_false, List.all_eq_true] at digits
      exact .signed sign ⟨digits.1, digits.2⟩
  · rintro ⟨sign, are⟩
    rw [readExponent?_signed sign fun _ => are.unsigned, if_neg]
    simp only [Bool.or_eq_true, List.isEmpty_iff, Bool.not_eq_true', not_or,
      Bool.not_eq_false, List.all_eq_true]
    exact ⟨are.some, are.digits⟩

/-- The digits behind a point, if there is one, and what stands behind them. -/
def splitPart : List Char → List Char × List Char
  | '.' :: rest => (rest.takeWhile Text.isDigit, rest.dropWhile Text.isDigit)
  | rest => ([], rest)

/-- Digits with the exponent behind them, which moves their point. -/
def scaled? (digits : Nat) (shift : Int) : List Char → Option Decimal
  | [] => some ⟨digits, shift⟩
  | c :: rest =>
    if c = 'e' ∨ c = 'E' then (readExponent? rest).map fun exponent => ⟨digits, shift + exponent⟩
    else none

theorem readDecimal?_eq (text : List Char) :
    readDecimal? text =
      let whole := text.takeWhile Text.isDigit
      let part := splitPart (text.dropWhile Text.isDigit)
      if whole.isEmpty && part.1.isEmpty then none
      else scaled? (Text.digitsValue 0 (whole ++ part.1)) (-(part.1.length : Int)) part.2 := rfl

theorem scaled?_eq_some_iff (digits : Nat) (shift : Int) (text : List Char) (decimal : Decimal) :
    scaled? digits shift text = some decimal ↔
      ∃ exponent, SpellsExponent text exponent ∧ decimal = ⟨digits, shift + exponent⟩ := by
  constructor
  · intro read
    cases text with
    | nil =>
      obtain rfl := Option.some.inj read
      exact ⟨0, .none, by rw [Int.add_zero]⟩
    | cons c rest =>
      rw [scaled?] at read
      split at read
      · rename_i marks
        obtain ⟨exponent, spells, rfl⟩ := Option.map_eq_some_iff.mp read
        exact ⟨exponent, .some marks ((readExponent?_eq_some_iff _ _).mp spells), rfl⟩
      · cases read
  · rintro ⟨exponent, spells, rfl⟩
    cases spells with
    | none => rw [scaled?, Int.add_zero]
    | some marks spells =>
      rw [scaled?, if_pos marks, (readExponent?_eq_some_iff _ _).mpr spells]
      rfl

theorem SpellsExponent.digitless {text : List Char} {exponent : Int}
    (spells : SpellsExponent text exponent) : Digitless text := by
  rintro c rest rfl
  cases spells with
  | some marks => rcases marks with rfl | rfl <;> decide

theorem SpellsExponent.pointless {text : List Char} {exponent : Int}
    (spells : SpellsExponent text exponent) (rest : List Char) : text ≠ '.' :: rest := by
  rintro rfl
  cases spells with
  | some marks => rcases marks with impossible | impossible <;> cases impossible

theorem digitless_point (rest : List Char) : Digitless ('.' :: rest) := by
  intro c others same
  rw [← (List.cons.inj same).1]
  decide

theorem splitPart_of_pointless {text : List Char} (pointless : ∀ rest, text ≠ '.' :: rest) :
    splitPart text = ([], text) := by
  rw [splitPart.eq_def]
  split
  · exact absurd rfl (pointless _)
  · rfl

theorem readDecimal?_whole {digits text : List Char}
    (are : ∀ c ∈ digits, Text.isDigit c = true) (stops : Digitless text)
    (pointless : ∀ rest, text ≠ '.' :: rest) (decimal : Decimal) :
    readDecimal? (digits ++ text) = some decimal ↔ digits ≠ [] ∧ ∃ exponent,
      SpellsExponent text exponent ∧ decimal = ⟨Text.digitsValue 0 digits, exponent⟩ := by
  rw [readDecimal?_eq, Text.takeWhile_digits are stops, Text.dropWhile_digits are stops,
    splitPart_of_pointless pointless]
  by_cases empty : digits = []
  · simp [empty]
  · simp [empty, scaled?_eq_some_iff]

theorem readDecimal?_pointed {digits part text : List Char}
    (are : ∀ c ∈ digits, Text.isDigit c = true) (partAre : ∀ c ∈ part, Text.isDigit c = true)
    (stops : Digitless text) (decimal : Decimal) :
    readDecimal? (digits ++ '.' :: (part ++ text)) = some decimal ↔ digits ++ part ≠ [] ∧
      ∃ exponent, SpellsExponent text exponent ∧
        decimal = ⟨Text.digitsValue 0 (digits ++ part), -(part.length : Int) + exponent⟩ := by
  have split : splitPart ('.' :: (part ++ text)) = (part, text) := by
    rw [splitPart, Text.takeWhile_digits partAre stops, Text.dropWhile_digits partAre stops]
  rw [readDecimal?_eq, Text.takeWhile_digits are (digitless_point _),
    Text.dropWhile_digits are (digitless_point _), split]
  by_cases empty : digits = [] ∧ part = []
  · simp [empty]
  · simp [empty, scaled?_eq_some_iff]

theorem readDecimal?_eq_some_iff (text : List Char) (decimal : Decimal) :
    readDecimal? text = some decimal ↔ SpellsDecimal text decimal := by
  constructor
  · intro read
    obtain ⟨digits, behind, rfl, are, stops⟩ := Text.exists_digits text
    by_cases pointed : ∃ rest, behind = '.' :: rest
    · obtain ⟨rest, rfl⟩ := pointed
      obtain ⟨part, text, rfl, partAre, stops⟩ := Text.exists_digits rest
      obtain ⟨some, exponent, scaled, rfl⟩ :=
        (readDecimal?_pointed are partAre stops decimal).mp read
      exact .pointed ⟨some, List.forall_mem_append.mpr ⟨are, partAre⟩⟩ scaled
    · obtain ⟨some, exponent, scaled, rfl⟩ := (readDecimal?_whole are stops
        (fun rest same => pointed ⟨rest, same⟩) decimal).mp read
      exact .whole ⟨some, are⟩ scaled
  · intro spells
    cases spells with
    | whole are scaled =>
      exact (readDecimal?_whole are.digits scaled.digitless scaled.pointless _).mpr
        ⟨are.some, _, scaled, rfl⟩
    | pointed are scaled =>
      obtain ⟨digits, part⟩ := List.forall_mem_append.mp are.digits
      exact (readDecimal?_pointed digits part scaled.digitless _).mpr
        ⟨are.some, _, scaled, rfl⟩

/-! ### Numbers -/

/-- A decimal number begins with a digit or a point. -/
theorem SpellsDecimal.exists_cons {text : List Char} {decimal : Decimal}
    (spells : SpellsDecimal text decimal) :
    ∃ c rest, text = c :: rest ∧ (Text.isDigit c = true ∨ c = '.') := by
  cases spells with
  | whole are scaled =>
    obtain ⟨c, rest, rfl, digit⟩ := are.exists_cons
    exact ⟨c, _, rfl, .inl digit⟩
  | @pointed digits part text exponent are scaled =>
    cases digits with
    | nil => exact ⟨'.', _, rfl, .inr rfl⟩
    | cons c rest => exact ⟨c, _, rfl, .inl (are.digits c List.mem_cons_self)⟩

theorem SpellsDecimal.unsigned {text : List Char} {decimal : Decimal}
    (spells : SpellsDecimal text decimal) : Unsigned text := by
  obtain ⟨c, rest, rfl, digit | rfl⟩ := spells.exists_cons
  all_goals
    intro other others same
    obtain ⟨rfl, -⟩ := List.cons.inj same
  · exact ⟨Text.ne_of_isDigit digit (by decide), Text.ne_of_isDigit digit (by decide)⟩
  · decide

/-- What has a letter as its lower case is a letter, or stands behind the ASCII capitals. -/
theorem capital_le_of_lowerAscii {c : Char} (letter : 'a' ≤ Text.lowerAscii c) : 'A' ≤ c := by
  rw [Text.lowerAscii] at letter
  split at letter
  · rename_i capital
    exact capital.1
  · exact Char.le_trans (by decide) letter

/-- A word begins with no sign and is no decimal number. -/
theorem unsigned_word {word others : List Char} {first : Char} (letter : 'a' ≤ first)
    (named : word.map Text.lowerAscii = first :: others) :
    word ≠ [] ∧ Unsigned word ∧ readDecimal? word = none := by
  obtain ⟨c, rest, rfl, rfl, -⟩ := List.map_eq_cons_iff.mp named
  have behind := capital_le_of_lowerAscii letter
  have apart : ∀ other : Char, other < 'A' → c ≠ other := by
    rintro other before rfl
    exact absurd behind (Char.not_le.mpr before)
  refine ⟨List.cons_ne_nil c rest, ?_,
    Option.eq_none_iff_forall_ne_some.mpr fun decimal read => ?_⟩
  · intro other others same
    obtain ⟨rfl, -⟩ := List.cons.inj same
    exact ⟨apart '+' (by decide), apart '-' (by decide)⟩
  · obtain ⟨other, others, same, digit | point⟩ :=
      ((readDecimal?_eq_some_iff _ decimal).mp read).exists_cons
    all_goals obtain ⟨rfl, -⟩ := List.cons.inj same
    · simp only [Text.isDigit, Bool.and_eq_true, decide_eq_true_eq] at digit
      exact absurd (Char.le_trans behind digit.2) (by decide)
    · exact apart '.' (by decide) point

/-- The reader of binary floating-point numbers accepts what spells one. -/
theorem read_eq_ok_iff (text : List Char) (x : Binary64) :
    read text = .ok x ↔ Spells text x := by
  constructor
  · intro accepted
    obtain ⟨sign, rest, rfl, bare⟩ := Text.exists_sign text
    rw [read, splitSign_signed sign bare] at accepted
    split at accepted
    · cases accepted
    · dsimp only at accepted
      split at accepted
      · rename_i decimal spells
        obtain rfl := Except.ok.inj accepted
        exact .decimal sign ((readDecimal?_eq_some_iff rest decimal).mp spells)
      · split at accepted
        · rename_i named
          obtain rfl := Except.ok.inj accepted
          exact .infinity sign (by simpa using named)
        · split at accepted
          · rename_i named
            obtain rfl := Except.ok.inj accepted
            exact .nan sign named
          · cases accepted
  · intro spells
    have written : ∀ (sign : Sign) {text : List Char}, text ≠ [] →
        ¬ (sign.text ++ text).isEmpty = true := by
      intro sign text some
      simp [some]
    cases spells with
    | decimal sign spells =>
      obtain ⟨c, rest, same, -⟩ := spells.exists_cons
      rw [read, if_neg (written sign (same ▸ List.cons_ne_nil c rest)),
        splitSign_signed sign fun _ => spells.unsigned]
      dsimp only
      rw [(readDecimal?_eq_some_iff _ _).mpr spells]
      rfl
    | @infinity sign word named =>
      have first : ∃ others, word.map Text.lowerAscii = 'i' :: others := by
        rcases List.mem_cons.mp named with inf | infinity
        · exact ⟨_, inf⟩
        · exact ⟨_, List.mem_singleton.mp infinity⟩
      obtain ⟨others, first⟩ := first
      obtain ⟨some, bare, none⟩ := unsigned_word (by decide) first
      rw [read, if_neg (written sign some), splitSign_signed sign fun _ => bare]
      dsimp only
      rw [none]
      exact if_pos (by simpa using named)
    | @nan sign word named =>
      obtain ⟨some, bare, none⟩ := unsigned_word (by decide : 'a' ≤ 'n') named
      rw [read, if_neg (written sign some), splitSign_signed sign fun _ => bare]
      dsimp only
      rw [none]
      dsimp only
      rw [named]
      rfl

end Binary64

end AccessFeed
