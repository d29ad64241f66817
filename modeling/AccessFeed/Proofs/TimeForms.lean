/-
This file proves that every written date-time is read as the instant it is
written for.

A text is tried against one form after another, and the first form that fits
decides. Which forms fit a rendering follows from its middle and its ending
alone, and each form that fits finds the same time of day and the same offset.
So it does not matter which of them comes first. At least one fits every
rendering, and renderings of one instant are read as one instant, whatever their
shapes and their offsets.
-/

import Mathlib.Data.List.Forall2
import AccessFeed.Event.Payload
import AccessFeed.Proofs.TimeTexts

namespace AccessFeed

namespace Calendar

open Text (Solid digitsOf padded)

/-! ### Forms -/

namespace OffsetTime

/-- The forms a text is tried against, in their order. -/
def forms : List (List Char → Except ScanFault Parts) :=
  scanInternet :: patterns.map (Scan.byPattern {})

/-- A text is read by the first form that makes a date-time of it. -/
theorem read?_eq {text : String} (filled : Text.trimmed text.toList ≠ []) :
    read? text = forms.findSome? fun form => ofScan? (form (Text.trimmed text.toList)) := by
  have full : (Text.trimmed text.toList).isEmpty = false := List.isEmpty_eq_false_iff.mpr filled
  rw [read?, forms, List.findSome?_cons, List.findSome?_map]
  simp only [full, Bool.false_eq_true, if_false]
  cases ofScan? (scanInternet (Text.trimmed text.toList)) <;> rfl

/-- A form reads the parts that it accepts. -/
theorem ofScan?_of_yields {scan : Except ScanFault Parts} {fits : Bool} {parts : Parts}
    (yields : Yields scan fits parts) : ofScan? scan = if fits then ofParts? parts else none := by
  cases fits with
  | true =>
    rw [show scan = .ok parts from yields]
    rfl
  | false =>
    obtain ⟨fault, refused⟩ := yields
    rw [refused]
    rfl

variable {text : List Char} {parts : Parts} {time : OffsetTime}
  {scans : List (List Char → Except ScanFault Parts)} {fits : List Bool}

/-- No form makes anything else of a text than what all that fit make of it. -/
theorem eq_of_yields (yields : List.Forall₂ (fun scan fits => Yields (scan text) fits parts)
      scans fits)
    (named : ofParts? parts = some time) {scan : List Char → Except ScanFault Parts}
    (member : scan ∈ scans) {other : OffsetTime} (reads : ofScan? (scan text) = some other) :
    other = time := by
  induction yields with
  | nil => cases member
  | cons first _ inductionHypothesis =>
    obtain rfl | member := List.mem_cons.mp member
    · rw [ofScan?_of_yields first, named] at reads
      split at reads
      · exact (Option.some.inj reads).symm
      · cases reads
    · exact inductionHypothesis member

/-- If some form fits, the first one decides. -/
theorem findSome?_of_yields (yields : List.Forall₂ (fun scan fits => Yields (scan text) fits
      parts) scans fits)
    (named : ofParts? parts = some time) (some : true ∈ fits) :
    scans.findSome? (fun scan => ofScan? (scan text)) = Option.some time := by
  induction yields with
  | nil => cases some
  | @cons scan fits scans others first _ inductionHypothesis =>
    rw [List.findSome?_cons, ofScan?_of_yields first]
    cases fits with
    | true => rw [if_pos rfl, named]
    | false =>
      rw [if_neg Bool.false_ne_true]
      obtain impossible | member := List.mem_cons.mp some
      · cases impossible
      · exact inductionHypothesis member

/-! ### Exact widths -/

theorem takeExact_padded {part : Part} {value : Nat} (small : value < 10 ^ Scan.Part.width part)
    (admits : Scan.Part.Admits part value) (parts : Parts) (rest : List Char) :
    takeExact parts part (Scan.Part.width part)
        (padded (Scan.Part.width part) (digitsOf value) ++ rest) =
      .ok (Scan.setPart parts part value, rest) := by
  have wide : Scan.Part.width part ≠ 0 := by cases part <;> decide
  rw [takeExact, Scan.takeNumber_padded wide (Nat.le_refl _) small
    (Scan.countable_of_width small)]
  show (Scan.setChecked parts part value >>= fun parts => pure (parts, rest)) = _
  rw [Scan.setChecked_of_admits admits]
  rfl

theorem bind_of_ok {Fault Value Result : Type} {first : Except Fault Value} {value : Value}
    (taken : first = .ok value) (next : Value → Except Fault Result) :
    first >>= next = next value := by
  rw [taken]
  rfl

end OffsetTime

/-! ### Patterns -/

namespace Rendering

open OffsetTime (bind_of_ok takeExact_padded)

variable (rendering : Rendering)

/-- A pattern that begins with a date goes on behind the date of a rendering. -/
theorem byPattern_core (middle : Piece) (more : List Piece) :
    Scan.byPattern {} (OffsetTime.datePieces ++ [middle] ++ OffsetTime.timePieces ++ more)
        rendering.core =
      Scan.byPattern rendering.time.dateParts (middle :: (OffsetTime.timePieces ++ more))
        (rendering.middle :: rendering.back) :=
  rendering.time.takes_date _ _

/-- A pattern that gets over the middle of a rendering comes to its ending. -/
theorem byPattern_fits {middle : Piece} (fits : Scan.takePiece rendering.time.dateParts middle
      (rendering.middle :: rendering.back) = .ok (rendering.time.dateParts, rendering.back))
    (more : List Piece) :
    Scan.byPattern {} (OffsetTime.datePieces ++ [middle] ++ OffsetTime.timePieces ++ more)
        rendering.core = Scan.byPattern (rendering.time.parts 0) more rendering.ending.text := by
  have clock := rendering.time.takes_clock rendering.ending.digitless rendering.ending.pointless
  rw [byPattern_core, Scan.byPattern, fits]
  exact clock more

/-- The pattern's T fits the rendering's. -/
theorem byPattern_letter (more : List Piece) :
    Scan.byPattern {} (OffsetTime.datePieces ++ [.literal 'T'] ++ OffsetTime.timePieces ++ more)
        rendering.core =
      if rendering.letter then
        Scan.byPattern (rendering.time.parts 0) more rendering.ending.text
      else .error .invalid := by
  cases letter : rendering.letter with
  | true =>
    refine rendering.byPattern_fits ?_ more
    rw [middle, letter]
    rfl
  | false =>
    rw [byPattern_core, middle, letter]
    rfl

/-- The pattern's blanks fit the rendering's. -/
theorem byPattern_blanks (more : List Piece) :
    Scan.byPattern {} (OffsetTime.datePieces ++ [.blanks] ++ OffsetTime.timePieces ++ more)
        rendering.core =
      if rendering.letter then .error .invalid
      else Scan.byPattern (rendering.time.parts 0) more rendering.ending.text := by
  cases letter : rendering.letter with
  | true =>
    rw [byPattern_core, middle, letter]
    rfl
  | false =>
    refine rendering.byPattern_fits ?_ more
    have solid := Text.solid_padded 2 rendering.time.hour
    show Except.ok (_, Text.skipBlanks (rendering.middle :: rendering.back)) = _
    rw [middle, letter]
    show Except.ok (_, Text.skipBlanks rendering.back) = _
    rw [back, LocalTime.clockText, List.append_assoc, Text.skipBlanks_append solid]

/-! ### The internet form -/

/-- The internet form takes everything in front of the ending of a rendering. -/
theorem scanInternet_core : OffsetTime.scanInternet rendering.core =
    (OffsetTime.scanInternet.takeZone rendering.ending.text >>= fun taken =>
      if taken.2.isEmpty then pure (rendering.time.parts taken.1) else .error .tooLong) := by
  obtain ⟨⟨yearSmall, year⟩, ⟨monthSmall, month⟩, ⟨daySmall, day⟩⟩ := rendering.time.date_fits
  obtain ⟨⟨hourSmall, hour⟩, ⟨minuteSmall, minute⟩, ⟨secondSmall, second⟩⟩ :=
    rendering.time.clock_fits
  have crossed : OffsetTime.scanInternet.takeMiddle (rendering.middle :: rendering.back) =
      .ok rendering.back := by
    rw [middle]
    cases rendering.letter <;> rfl
  have fraction : ∀ parts : Parts, parts.nanos = 0 →
      Scan.takePiece parts .fraction
          (fractionText rendering.time.fraction ++ rendering.ending.text) =
        .ok ({ parts with nanos := rendering.time.nanos }, rendering.ending.text) :=
    fun parts start => LocalTime.takePiece_fraction start rendering.time.fraction
      rendering.ending.digitless rendering.ending.pointless
  rw [core, LocalTime.toList_display, OffsetTime.scanInternet]
  simp only [List.append_assoc, List.cons_append]
  -- from here on a step for each number and for each character between two of them
  refine (bind_of_ok (takeExact_padded yearSmall year _ _) _).trans ?_
  refine (bind_of_ok rfl _).trans ?_
  refine (bind_of_ok (takeExact_padded monthSmall month _ _) _).trans ?_
  refine (bind_of_ok rfl _).trans ?_
  refine (bind_of_ok (takeExact_padded daySmall day _ _) _).trans ?_
  refine (bind_of_ok crossed _).trans ?_
  rw [back, LocalTime.clockText]
  simp only [List.append_assoc, List.cons_append]
  refine (bind_of_ok (takeExact_padded hourSmall hour _ _) _).trans ?_
  refine (bind_of_ok rfl _).trans ?_
  refine (bind_of_ok (takeExact_padded minuteSmall minute _ _) _).trans ?_
  refine (bind_of_ok rfl _).trans ?_
  refine (bind_of_ok (takeExact_padded secondSmall second _ _) _).trans ?_
  refine (bind_of_ok (fraction _ rfl) _).trans ?_
  rw [LocalTime.setPart_date]
  rfl

/-! ### All forms -/

/-- The parts that every form finds that fits a rendering. -/
def parts : Parts :=
  rendering.time.parts rendering.ending.seconds

theorem yields_internet :
    Yields (OffsetTime.scanInternet rendering.core) rendering.ending.isInternet
      rendering.parts := by
  have zone := rendering.ending.takeZone_text
  rw [scanInternet_core]
  cases internet : rendering.ending.isInternet with
  | true =>
    rw [internet, if_pos rfl] at zone
    rw [zone]
    rfl
  | false =>
    rw [internet, if_neg Bool.false_ne_true] at zone
    obtain ⟨fault, refused⟩ := zone
    rw [refused]
    exact ⟨fault, rfl⟩

/-- A pattern with a T fits where the rendering has a T and the rest of it fits the ending. -/
theorem yields_letter {more : List Piece} {fits : Bool}
    (yields : Yields (Scan.byPattern (rendering.time.parts 0) more rendering.ending.text) fits
      rendering.parts) :
    Yields (Scan.byPattern {} (OffsetTime.datePieces ++ [.literal 'T'] ++ OffsetTime.timePieces ++
      more) rendering.core) (rendering.letter && fits) rendering.parts := by
  rw [byPattern_letter]
  cases rendering.letter with
  | true => exact yields
  | false => exact ⟨.invalid, rfl⟩

/-- A pattern with blanks fits where the rendering has none, and the rest of it the ending. -/
theorem yields_blanks {more : List Piece} {fits : Bool}
    (yields : Yields (Scan.byPattern (rendering.time.parts 0) more rendering.ending.text) fits
      rendering.parts) :
    Yields (Scan.byPattern {} (OffsetTime.datePieces ++ [.blanks] ++ OffsetTime.timePieces ++
      more) rendering.core) (!rendering.letter && fits) rendering.parts := by
  rw [byPattern_blanks]
  cases rendering.letter with
  | true => exact ⟨.invalid, rfl⟩
  | false => exact yields

/-- Without an offset in the text the parts are those of a rendering without an ending. -/
theorem yields_bare :
    Yields (Scan.byPattern (rendering.time.parts 0) [] rendering.ending.text)
      rendering.ending.isBare rendering.parts := by
  have yields := rendering.ending.yields_nothing (rendering.time.parts 0)
  cases ending : rendering.ending with
  | bare =>
    rw [ending] at yields
    rw [parts, ending]
    exact yields
  | zulu => exact ⟨.tooLong, rfl⟩
  | offset spaced colon written =>
    rw [ending] at yields
    exact yields

/-- Which of the forms fit a rendering. -/
def fits : List Bool :=
  [rendering.ending.isInternet,
    rendering.letter && rendering.ending.hasOffset,
    !rendering.letter && rendering.ending.hasOffset,
    !rendering.letter && rendering.ending.hasOffset,
    !rendering.letter && rendering.ending.isBare,
    rendering.letter && rendering.ending.isBare]

/-- Every form that fits a rendering finds the same parts, and the others refuse it. -/
theorem forms_yield : List.Forall₂ (fun form fits => Yields (form rendering.core) fits
    rendering.parts) OffsetTime.forms rendering.fits := by
  have offset := rendering.ending.yields_offset (rendering.time.parts 0)
  have blanks := rendering.ending.yields_blanks_offset (rendering.time.parts 0)
  have bare := rendering.yields_bare
  exact .cons rendering.yields_internet <| .cons (rendering.yields_letter offset) <|
    .cons (rendering.yields_blanks blanks) <| .cons (rendering.yields_blanks blanks) <|
    .cons (rendering.yields_blanks bare) <| .cons (rendering.yields_letter bare) .nil

/-- Every rendering fits a form. -/
theorem fits_some : true ∈ rendering.fits := by
  rw [fits]
  cases rendering.ending <;> cases rendering.letter <;> simp [Ending.isInternet, Ending.hasOffset,
    Ending.isBare]

/-- The parts of a rendering name its local time with its offset. -/
theorem ofParts?_parts : OffsetTime.ofParts? rendering.parts = some rendering.meaning := by
  obtain ⟨least, most⟩ := rendering.ending.seconds_bounds
  have offset : ¬ (rendering.parts.offset < -OffsetTime.greatestOffset ∨
      OffsetTime.greatestOffset < rendering.parts.offset) :=
    not_or.mpr ⟨Int.not_lt.mpr least, Int.not_lt.mpr most⟩
  have dated : Date.ofParts? rendering.parts.year rendering.parts.month rendering.parts.day =
      some rendering.time.date :=
    dif_pos rendering.time.date.inCalendar
  have ordinary : rendering.parts.second ≠ 60 := Nat.ne_of_lt rendering.time.second.isLt
  have clock : OffsetTime.timeOfDay rendering.parts =
      (rendering.time.sinceMidnight, rendering.time.nanos) := by
    rw [OffsetTime.timeOfDay, if_neg ordinary]
    rfl
  rw [OffsetTime.ofParts?, if_neg offset, dated, clock]
  exact if_pos (rendering.time.inRange_seconds least most)

end Rendering

/-! ### Readings -/

theorem LocalTime.clockText_ends (time : LocalTime) : Text.EndsSolid time.clockText := by
  have digits := Text.solid_padded 2 time.second
  have fraction : ∀ c ∈ fractionText time.fraction, Text.isBlank c = false := by
    intro c member
    cases written : time.fraction with
    | nil =>
      rw [written] at member
      cases member
    | cons digit rest =>
      rw [written] at member
      obtain rfl | member := List.mem_cons.mp member
      · decide
      · obtain ⟨digit, -, rfl⟩ := List.mem_map.mp member
        exact Text.isBlank_digitChar digit
  have solid : Solid (padded 2 (digitsOf time.second) ++ fractionText time.fraction) :=
    ⟨fun empty => digits.1 (List.append_eq_nil_iff.mp empty).1,
      fun c member => (List.mem_append.mp member).elim (digits.2 c) (fraction c)⟩
  exact (((solid.ends.append [':']).append _).append [':']).append _

theorem WrittenOffset.text_ends (offset : WrittenOffset) (colon : Bool) :
    Text.EndsSolid (offset.text colon) :=
  (((Text.solid_padded 2 offset.minutes).ends.append _).append _).append [_]

namespace Rendering

variable (rendering : Rendering)

theorem back_ends : Text.EndsSolid rendering.back := by
  rw [back]
  cases rendering.ending with
  | bare =>
    rw [Ending.text, List.append_nil]
    exact rendering.time.clockText_ends
  | zulu =>
    have solid : Solid ['Z'] := ⟨List.cons_ne_nil _ _, Text.unblank_of_all rfl⟩
    exact solid.ends.append _
  | offset spaced colon written => exact ((written.text_ends colon).append _).append _

/-- The blanks around a rendering are trimmed, and only those. -/
theorem trimmed_text : Text.trimmed rendering.text.toList = rendering.core := by
  have ends : Text.EndsSolid rendering.core := (rendering.back_ends.append [_]).append _
  obtain ⟨behind, begins⟩ : ∃ behind, rendering.core =
      padded 4 (digitsOf rendering.time.date.year.toNat) ++ behind := by
    rw [core, LocalTime.toList_display]
    exact ⟨_, List.append_assoc _ _ _⟩
  rw [begins] at ends
  rw [text, String.toList_ofList, begins]
  exact Text.trimmed_surrounded rendering.blankBefore rendering.blankAfter
    (Text.solid_padded _ _) ends

theorem core_ne_nil : rendering.core ≠ [] := by
  rw [core]
  exact List.append_ne_nil_of_right_ne_nil _ (List.cons_ne_nil _ _)

theorem read?_text : OffsetTime.read? rendering.text = some rendering.meaning := by
  have filled : Text.trimmed rendering.text.toList ≠ [] := by
    rw [trimmed_text]
    exact rendering.core_ne_nil
  rw [OffsetTime.read?_eq filled, trimmed_text]
  exact OffsetTime.findSome?_of_yields rendering.forms_yield rendering.ofParts?_parts
    rendering.fits_some

/-- Whatever its shape, its fraction, its offset and the blanks around it, a rendering is read as
its local time with its offset, and no form that it is tried against makes anything else of it.
So a payload that was created then says so, and two renderings are read as the same instant
exactly if they are renderings of the same. -/
theorem text_is_read : OffsetTime.read? rendering.text = some rendering.meaning ∧
    (∀ form ∈ OffsetTime.forms, ∀ time : OffsetTime,
      OffsetTime.ofScan? (form (Text.trimmed rendering.text.toList)) = some time →
        time = rendering.meaning) ∧
    (∀ payload : Event.Payload,
      ({ payload with createdAt := some rendering.text } : Event.Payload).createdInstant? =
        some rendering.instant) ∧
    ∀ other : Rendering, (OffsetTime.read? rendering.text).map OffsetTime.instant =
      (OffsetTime.read? other.text).map OffsetTime.instant ↔
        rendering.instant = other.instant := by
  refine ⟨rendering.read?_text, ?_, ?_, ?_⟩
  · intro form member time reads
    rw [trimmed_text] at reads
    exact OffsetTime.eq_of_yields rendering.forms_yield rendering.ofParts?_parts member reads
  · intro payload
    rw [Event.Payload.createdInstant?]
    dsimp only [Option.bind_eq_bind, Option.bind_some]
    rw [read?_text]
    rfl
  · intro other
    rw [read?_text, read?_text]
    exact Option.some_inj

/-- The last nanosecond of the last year of four digits, at the westernmost offset, among blanks. -/
def lastMoment : Rendering where
  time := ⟨⟨9999, 12, 31, by decide⟩, 23, 59, 59, List.replicate 9 9, by decide⟩
  letter := false
  ending := .offset true false ⟨true, 23, 59⟩
  before := ['\t']
  after := ['\u3000']
  blankBefore := List.all_eq_true.mp rfl
  blankAfter := List.all_eq_true.mp rfl

/-- It is read into the year after, and no pattern finds anything else in it. -/
theorem lastMoment_is_read :
    lastMoment.text = "\t9999-12-31 23:59:59.999999999 -2359\u3000" ∧
    OffsetTime.read? lastMoment.text = some ⟨-86340, ⟨253402387139, 999999999⟩⟩ ∧
    ∀ pattern ∈ OffsetTime.patterns, ∀ time,
      OffsetTime.ofScan? (Scan.byPattern {} pattern (Text.trimmed lastMoment.text.toList)) =
        some time → time = ⟨-86340, ⟨253402387139, 999999999⟩⟩ := by
  have meaning : lastMoment.meaning = ⟨-86340, ⟨253402387139, 999999999⟩⟩ := by decide +kernel
  obtain ⟨read, found, -⟩ := text_is_read lastMoment
  rw [meaning] at read found
  refine ⟨by decide +kernel, read, fun pattern member => found _ ?_⟩
  exact List.mem_cons_of_mem _ (List.mem_map_of_mem member)

end Rendering

end Calendar

end AccessFeed
