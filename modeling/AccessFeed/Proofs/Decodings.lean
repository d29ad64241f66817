/-
This file says which fields are decoded to an access event, and to which one.

The rules stand here by themselves, field by field: which have to be present, how
the two numbers are spelled, what an absent field stands for, and which texts
count as absent. Decoding accepts the fields that meet the rules and no others,
the event says what the rules say, and no field of another name has any part in
it.
-/

import AccessFeed.Event.Payload
import AccessFeed.Proofs.Spellings

namespace AccessFeed.Event

open Streams (Fields)

/-- The names of the fields that an event is decoded from. -/
def knownNames : List String :=
  ["type", "categoryCode", "userId", "endpoint", "httpMethod", "methodName", "responseStatus",
    "responseTime", "ipAddress", "userAgent", "inputs", "outputs", "createdAt"]

/-- Whether a field holds a status: blanks aside, a whole number of thirty-two bits. -/
def HoldsStatus (field : Option String) (status : Int) : Prop :=
  ∃ text, field = some text ∧ Text.SpellsInt (Text.trimmed text.toList) status ∧
    -2147483648 ≤ status ∧ status ≤ 2147483647

/-- Whether a field holds a time: blanks aside, a binary floating-point number. -/
def HoldsTime (field : Option String) (time : Binary64) : Prop :=
  ∃ text, field = some text ∧ Binary64.Spells (Text.trimmed text.toList) time

/-- Whether an optional text is that of a field: absent if the field is missing or blank, and
otherwise the field's text as it is. -/
structure Keeps (field value : Option String) : Prop where
  absent : value = none ↔ field = none ∨ ∃ text, field = some text ∧ Text.allBlank text = true
  present : ∀ text, value = some text → field = some text

/-- Whether fields are those of an access event. -/
structure Acceptable (fields : Fields) : Prop where
  eventType : fields.get? "type" ≠ none
  category : fields.get? "categoryCode" ≠ none
  endpoint : fields.get? "endpoint" ≠ none
  httpMethod : fields.get? "httpMethod" ≠ none
  responseStatus : ∃ status, HoldsStatus (fields.get? "responseStatus") status
  responseTime : ∃ time, HoldsTime (fields.get? "responseTime") time

namespace Payload

/-- Whether an event says what its fields say. -/
structure Says (payload : Payload) (fields : Fields) : Prop where
  eventType : fields.get? "type" = some payload.eventType
  category : fields.get? "categoryCode" = some payload.category
  endpoint : fields.get? "endpoint" = some payload.endpoint
  httpMethod : fields.get? "httpMethod" = some payload.httpMethod
  responseStatus : HoldsStatus (fields.get? "responseStatus") payload.responseStatus
  responseTime : HoldsTime (fields.get? "responseTime") payload.responseTime
  userId : payload.userId = (fields.get? "userId").getD "anonymous"
  ipAddress : payload.ipAddress = (fields.get? "ipAddress").getD ""
  userAgent : payload.userAgent = (fields.get? "userAgent").getD ""
  methodName : Keeps (fields.get? "methodName") payload.methodName
  inputs : Keeps (fields.get? "inputs") payload.inputs
  outputs : Keeps (fields.get? "outputs") payload.outputs
  createdAt : Keeps (fields.get? "createdAt") payload.createdAt

/-! ### Single fields -/

theorem readStatus_eq_ok_iff (field : Option String) (status : Int) :
    readStatus field = .ok (some status) ↔ HoldsStatus field status := by
  cases field with
  | none =>
    refine ⟨fun impossible => (nomatch impossible), ?_⟩
    rintro ⟨text, impossible, -⟩
    cases impossible
  | some text =>
    have reads := Text.readInt_eq_ok_iff (2 ^ 31) (2 ^ 31 - 1) (Text.trimmed text.toList) status
    have holds : HoldsStatus (some text) status ↔
        Text.readInt32 (Text.trimmed text.toList) = .ok status := by
      rw [Text.readInt32, reads]
      constructor
      · rintro ⟨_, same, spells, low, high⟩
        obtain rfl := Option.some.inj same
        exact ⟨spells, by omega, by omega⟩
      · rintro ⟨spells, low, high⟩
        exact ⟨text, rfl, spells, by omega, by omega⟩
    rw [holds, readStatus]
    cases Text.readInt32 (Text.trimmed text.toList) <;> simp

theorem readTime_eq_ok_iff (field : Option String) (time : Binary64) :
    readTime field = .ok (some time) ↔ HoldsTime field time := by
  cases field with
  | none =>
    refine ⟨fun impossible => (nomatch impossible), ?_⟩
    rintro ⟨text, impossible, -⟩
    cases impossible
  | some text =>
    have holds : HoldsTime (some text) time ↔
        Binary64.read (Text.trimmed text.toList) = .ok time := by
      rw [Binary64.read_eq_ok_iff]
      constructor
      · rintro ⟨_, same, spells⟩
        obtain rfl := Option.some.inj same
        exact spells
      · exact fun spells => ⟨text, rfl, spells⟩
    rw [holds, readTime]
    cases Binary64.read (Text.trimmed text.toList) <;> simp

theorem require_eq_ok_iff {Value : Type} (field : String) (held : Option Value) (value : Value) :
    require field held = .ok value ↔ held = some value := by
  cases held <;> simp [require]

theorem keeps_iff (field value : Option String) :
    Keeps field value ↔ value = unlessBlank field := by
  constructor
  · intro keeps
    cases field with
    | none => exact keeps.absent.mpr (.inl rfl)
    | some text =>
      cases blank : Text.allBlank text with
      | true =>
        rw [keeps.absent.mpr (.inr ⟨text, rfl, blank⟩), unlessBlank, Option.filter_some, blank]
        rfl
      | false =>
        rw [unlessBlank, Option.filter_some, blank]
        cases value with
        | none =>
          obtain impossible | ⟨other, same, otherBlank⟩ := keeps.absent.mp rfl
          · cases impossible
          · obtain rfl := Option.some.inj same
            exact absurd (blank.symm.trans otherBlank) Bool.noConfusion
        | some held => exact (keeps.present held rfl).symm
  · rintro rfl
    refine ⟨?_, fun text held => (Option.filter_eq_some_iff.mp held).1⟩
    cases field <;> simp [unlessBlank]

/-! ### All fields -/

theorem bind_eq_ok_iff {Fault First Second : Type} {first : Except Fault First}
    {rest : First → Except Fault Second} {result : Second} :
    first >>= rest = .ok result ↔ ∃ value, first = .ok value ∧ rest value = .ok result := by
  constructor
  · intro ended
    cases first with
    | error fault => cases ended
    | ok value => exact ⟨value, rfl, ended⟩
  · rintro ⟨value, rfl, ended⟩
    exact ended

/-- The event of fields whose required ones are read; the others are read from the fields here. -/
def filledIn (fields : Fields) (eventType category endpoint httpMethod : String)
    (responseStatus : Int) (responseTime : Binary64) : Payload where
  eventType := eventType
  category := category
  endpoint := endpoint
  httpMethod := httpMethod
  responseStatus := responseStatus
  responseTime := responseTime
  userId := (fields.get? "userId").getD "anonymous"
  methodName := unlessBlank (fields.get? "methodName")
  ipAddress := (fields.get? "ipAddress").getD ""
  userAgent := (fields.get? "userAgent").getD ""
  inputs := unlessBlank (fields.get? "inputs")
  outputs := unlessBlank (fields.get? "outputs")
  createdAt := unlessBlank (fields.get? "createdAt")

theorem says_filledIn {fields : Fields} {eventType category endpoint httpMethod : String}
    {status : Int} {time : Binary64} (hasType : fields.get? "type" = some eventType)
    (hasCategory : fields.get? "categoryCode" = some category)
    (hasEndpoint : fields.get? "endpoint" = some endpoint)
    (hasMethod : fields.get? "httpMethod" = some httpMethod)
    (hasStatus : HoldsStatus (fields.get? "responseStatus") status)
    (hasTime : HoldsTime (fields.get? "responseTime") time) :
    (filledIn fields eventType category endpoint httpMethod status time).Says fields where
  eventType := hasType
  category := hasCategory
  endpoint := hasEndpoint
  httpMethod := hasMethod
  responseStatus := hasStatus
  responseTime := hasTime
  userId := rfl
  ipAddress := rfl
  userAgent := rfl
  methodName := (keeps_iff _ _).mpr rfl
  inputs := (keeps_iff _ _).mpr rfl
  outputs := (keeps_iff _ _).mpr rfl
  createdAt := (keeps_iff _ _).mpr rfl

/-- Beside the required fields nothing is left open by what fields say. -/
theorem Says.eq_filledIn {fields : Fields} {payload : Payload} (held : payload.Says fields) :
    payload = filledIn fields payload.eventType payload.category payload.endpoint
      payload.httpMethod payload.responseStatus payload.responseTime := by
  rw [filledIn, ← held.userId, ← held.ipAddress, ← held.userAgent,
    ← (keeps_iff _ _).mp held.methodName, ← (keeps_iff _ _).mp held.inputs,
    ← (keeps_iff _ _).mp held.outputs, ← (keeps_iff _ _).mp held.createdAt]

/-- Fields are decoded to an event that says what they say, and to no other. -/
theorem decode_eq_ok_iff (fields : Fields) (payload : Payload) :
    decode fields = .ok payload ↔ payload.Says fields := by
  simp only [decode, bind_eq_ok_iff, require_eq_ok_iff]
  constructor
  · rintro ⟨_, status, _, time, eventType, hasType, category, hasCategory, endpoint, hasEndpoint,
      httpMethod, hasMethod, responseStatus, rfl, responseTime, rfl, made⟩
    obtain rfl := Except.ok.inj made
    exact says_filledIn hasType hasCategory hasEndpoint hasMethod
      ((readStatus_eq_ok_iff _ _).mp status) ((readTime_eq_ok_iff _ _).mp time)
  · intro held
    exact ⟨_, (readStatus_eq_ok_iff _ _).mpr held.responseStatus, _,
      (readTime_eq_ok_iff _ _).mpr held.responseTime, _, held.eventType, _, held.category, _,
      held.endpoint, _, held.httpMethod, _, rfl, _, rfl, congrArg Except.ok held.eq_filledIn.symm⟩

/-- The fields of an access event are those that some event says. -/
theorem exists_says_iff (fields : Fields) :
    (∃ payload : Payload, payload.Says fields) ↔ Acceptable fields := by
  constructor
  · rintro ⟨payload, held⟩
    exact {
      eventType := held.eventType ▸ Option.some_ne_none _
      category := held.category ▸ Option.some_ne_none _
      endpoint := held.endpoint ▸ Option.some_ne_none _
      httpMethod := held.httpMethod ▸ Option.some_ne_none _
      responseStatus := ⟨_, held.responseStatus⟩
      responseTime := ⟨_, held.responseTime⟩ }
  · intro acceptable
    obtain ⟨eventType, hasType⟩ := Option.ne_none_iff_exists'.mp acceptable.eventType
    obtain ⟨category, hasCategory⟩ := Option.ne_none_iff_exists'.mp acceptable.category
    obtain ⟨endpoint, hasEndpoint⟩ := Option.ne_none_iff_exists'.mp acceptable.endpoint
    obtain ⟨httpMethod, hasMethod⟩ := Option.ne_none_iff_exists'.mp acceptable.httpMethod
    obtain ⟨status, hasStatus⟩ := acceptable.responseStatus
    obtain ⟨time, hasTime⟩ := acceptable.responseTime
    exact ⟨_, says_filledIn hasType hasCategory hasEndpoint hasMethod hasStatus hasTime⟩

/-- Fields that agree on the known names are decoded alike. -/
theorem decode_congr {first second : Fields}
    (same : ∀ name ∈ knownNames, first.get? name = second.get? name) :
    decode first = decode second := by
  simp only [knownNames, List.forall_mem_cons] at same
  obtain ⟨eventType, category, userId, endpoint, httpMethod, methodName, responseStatus,
    responseTime, ipAddress, userAgent, inputs, outputs, createdAt, -⟩ := same
  simp only [decode, fieldNames, eventType, category, userId, endpoint, httpMethod, methodName,
    responseStatus, responseTime, ipAddress, userAgent, inputs, outputs, createdAt]

/-- Fields are decoded exactly if they are those of an access event, to the event that says what
they say, whatever fields of other names there are. -/
theorem decode_accepts (fields : Fields) :
    ((∃ payload, decode fields = .ok payload) ↔ Acceptable fields) ∧
    (∀ payload, decode fields = .ok payload ↔ payload.Says fields) ∧
    ∀ other : Fields, (∀ name ∈ knownNames, other.get? name = fields.get? name) →
      decode other = decode fields := by
  refine ⟨?_, decode_eq_ok_iff fields, fun other same => decode_congr same⟩
  rw [← exists_says_iff]
  exact exists_congr (decode_eq_ok_iff fields)

/-- Fields with signed and padded numbers and with blank and empty texts. -/
def paddedFields : Fields :=
  .ofList [("type", "ACCESS"), ("categoryCode", ""), ("endpoint", " /über"), ("httpMethod", "GET"),
    ("responseStatus", " -2147483648\u3000"), ("responseTime", "\t+.5E-3 "), ("userId", ""),
    ("inputs", " \n"), ("outputs", " null ")]

/-- What they say. -/
def paddedPayload : Payload where
  eventType := "ACCESS"
  category := ""
  userId := ""
  endpoint := " /über"
  httpMethod := "GET"
  methodName := none
  responseStatus := -2147483648
  responseTime := Binary64.ofDecimal false 5 (-4)
  ipAddress := ""
  userAgent := ""
  inputs := none
  outputs := some " null "
  createdAt := none

/-- They are decoded to it, and a misspelled name beside them changes nothing. -/
theorem paddedFields_are_decoded :
    paddedPayload.Says paddedFields ∧ decode paddedFields = .ok paddedPayload ∧
      (∀ name ∈ knownNames,
        (paddedFields.insert "userID" "u-1").get? name = paddedFields.get? name) ∧
      decode (paddedFields.insert "userID" "u-1") = .ok paddedPayload := by
  have status : Text.SpellsInt (Text.trimmed " -2147483648\u3000".toList) (-2147483648) :=
    @Text.SpellsInt.signed .minus "2147483648".toList ⟨by decide, List.all_eq_true.mp rfl⟩
  have time : Binary64.Spells (Text.trimmed "\t+.5E-3 ".toList) (.ofDecimal false 5 (-4)) :=
    .decimal .plus (@Binary64.SpellsDecimal.pointed [] ['5'] ['E', '-', '3'] (-3)
      ⟨by decide, List.all_eq_true.mp rfl⟩ (.some (.inr rfl) (@Text.SpellsInt.signed .minus ['3']
        ⟨by decide, List.all_eq_true.mp rfl⟩)))
  have held : paddedPayload.Says paddedFields := {
    eventType := by decide
    category := by decide
    endpoint := by decide
    httpMethod := by decide
    responseStatus := ⟨" -2147483648\u3000", by decide, status, by decide, by decide⟩
    responseTime := ⟨"\t+.5E-3 ", by decide, time⟩
    userId := by decide
    ipAddress := by decide
    userAgent := by decide
    methodName := (keeps_iff _ _).mpr (by decide)
    inputs := (keeps_iff _ _).mpr (by decide)
    outputs := (keeps_iff _ _).mpr (by decide)
    createdAt := (keeps_iff _ _).mpr (by decide) }
  have same : ∀ name ∈ knownNames,
      (paddedFields.insert "userID" "u-1").get? name = paddedFields.get? name := by
    intro name known
    refine paddedFields.get?_insert_of_ne ?_ "u-1"
    rintro rfl
    revert known
    decide
  have decoded := ((decode_accepts paddedFields).2.1 paddedPayload).mpr held
  exact ⟨held, decoded, same, ((decode_accepts paddedFields).2.2 _ same).trans decoded⟩

end Payload

end AccessFeed.Event
