/-
This file tells what a read of a consumer hands over, given the entries in the
reply of the server.

An entry is legible if its id is one and its names and the values that it gives
them are texts. A read hands over a record for every entry if all are legible,
and otherwise no record at all, but an error that is not critical. So a listener
that meets an illegible entry whenever it reads stays where it is: it reads again
and again from the same offset, and never takes up a record.
-/

import AccessFeed.Proofs.Publications
import AccessFeed.Proofs.Replays
import AccessFeed.Proofs.ServerErrors
import AccessFeed.Proofs.Tables
import Mathlib.Data.List.Forall2

namespace AccessFeed

open Streams (Fields ReadOffset Record Service StoreError StreamId)

/-! ### Answers that hinge on a condition -/

/-- Whether an answer hinges on a condition: where it holds the answer is a value with a property,
and where it does not an error of a sort. -/
structure Hinges {Error Value : Type} (condition : Prop) (property : Value → Prop)
    (sort : Error → Prop) (answer : Except Error Value) : Prop where
  granted : condition → ∃ value, answer = .ok value ∧ property value
  refused : ¬ condition → ∃ error, answer = .error error ∧ sort error

namespace Hinges

variable {Error First Second Value : Type} {condition : Prop} {property : First → Prop}
  {sort : Error → Prop} {answer : Except Error First}

theorem ok (holds : condition) {value : First} (has : property value) :
    Hinges condition property sort (.ok value) :=
  ⟨fun _ => ⟨value, rfl, has⟩, fun never => absurd holds never⟩

theorem error (fails : ¬ condition) {error : Error} (has : sort error) :
    Hinges condition property sort (.error error) :=
  ⟨fun never => absurd never fails, fun _ => ⟨error, rfl, has⟩⟩

theorem congr {condition' : Prop} (hinges : Hinges condition property sort answer)
    (same : condition' ↔ condition) : Hinges condition' property sort answer :=
  ⟨fun holds => hinges.granted (same.mp holds),
    fun fails => hinges.refused fun holds => fails (same.mpr holds)⟩

theorem imp {property' : First → Prop} (hinges : Hinges condition property sort answer)
    (has : ∀ value, property value → property' value) : Hinges condition property' sort answer :=
  ⟨fun holds => (hinges.granted holds).imp fun value => And.imp_right (has value),
    hinges.refused⟩

/-- Where a step goes on with what another one brought, the answer hinges on both conditions. -/
theorem bind {condition' : Prop} {property' : Second → Prop} {next : First → Except Error Second}
    (hinges : Hinges condition property sort answer)
    (later : ∀ value, property value → Hinges condition' property' sort (next value)) :
    Hinges (condition ∧ condition') property' sort (answer.bind next) where
  granted holds := by
    obtain ⟨value, answered, has⟩ := hinges.granted holds.1
    rw [answered]
    exact (later value has).granted holds.2
  refused fails := by
    by_cases holds : condition
    · obtain ⟨value, answered, has⟩ := hinges.granted holds
      rw [answered]
      exact (later value has).refused fun more => fails ⟨holds, more⟩
    · obtain ⟨error, answered, has⟩ := hinges.refused holds
      exact ⟨error, by rw [answered]; rfl, has⟩

theorem map {property' : Second → Prop} (change : First → Second)
    (hinges : Hinges condition property sort answer)
    (changed : ∀ value, property value → property' (change value)) :
    Hinges condition property' sort (answer.map change) where
  granted holds := by
    obtain ⟨value, answered, has⟩ := hinges.granted holds
    exact ⟨change value, by rw [answered]; rfl, changed value has⟩
  refused fails := by
    obtain ⟨error, answered, has⟩ := hinges.refused fails
    exact ⟨error, by rw [answered]; rfl, has⟩

/-- The value may be told to come with the condition. -/
theorem and_condition (hinges : Hinges condition property sort answer) :
    Hinges condition (fun value => condition ∧ property value) sort answer :=
  ⟨fun holds => (hinges.granted holds).imp fun _ => And.imp_right (And.intro holds),
    hinges.refused⟩

/-- A list is gone through if the condition of each member of a related one holds, and then brings a
value for each of these members. -/
theorem mapM {Member : Type} {related : Member → First → Prop} {conditions : Member → Prop}
    {relation : Member → Second → Prop} {step : First → Except Error Second}
    (each : ∀ member value, related member value →
      Hinges (conditions member) (relation member) sort (step value))
    {members : List Member} {values : List First}
    (pairs : List.Forall₂ related members values) :
    Hinges (∀ member ∈ members, conditions member) (List.Forall₂ relation members) sort
      (values.mapM step) := by
  induction pairs with
  | nil => exact ok (List.forall_mem_nil _) List.Forall₂.nil
  | cons pair _ inductionHypothesis =>
    rw [List.mapM_cons]
    refine ((each _ _ pair).bind fun value found => inductionHypothesis.bind fun values foundRest =>
      ok trivial (List.Forall₂.cons found foundRest)).congr ?_
    simp

/-- A list is gone through if the condition of each member holds. -/
theorem mapM_self {conditions : First → Prop} {relation : First → Second → Prop}
    {step : First → Except Error Second}
    (each : ∀ member, Hinges (conditions member) (relation member) sort (step member))
    (members : List First) :
    Hinges (∀ member ∈ members, conditions member) (List.Forall₂ relation members) sort
      (members.mapM step) := by
  have pairs : List.Forall₂ Eq members members := List.forall₂_refl members
  refine mapM ?_ pairs
  rintro member _ rfl
  exact each member

end Hinges

namespace Remote

/-! ### What the server sends -/

/-- An entry as the server sends it: the bytes of its id, and of its names and values, if its
content was not deleted. -/
structure SentEntry where
  id : List UInt8
  fields : Option (List (List UInt8 × List UInt8))

namespace SentEntry

/-- The names and values of an entry. -/
def content (entry : SentEntry) : List (List UInt8 × List UInt8) :=
  entry.fields.getD []

/-- The names and values of an entry in a reply, where they take turns. -/
def contentReply (entry : SentEntry) : Reply :=
  match entry.fields with
  | none => .nothing
  | some fields => .list (fields.flatMap fun field => [.bytes field.1, .bytes field.2])

/-- An entry in a reply. -/
def reply (entry : SentEntry) : Reply :=
  .list [.bytes entry.id, entry.contentReply]

/-- The value that a list of fields gives a name: the last one, if there are several. -/
def valueOf? (name : String) : List (List UInt8 × List UInt8) → Option (List UInt8)
  | [] => none
  | field :: rest =>
    (valueOf? name rest).or (if text? field.1 = some name then some field.2 else none)

/-- Whether an entry can be read: its id is one, and its names and the values that they have are
texts. -/
structure Legible (entry : SentEntry) : Prop where
  id : ∃ text id, text? entry.id = some text ∧ StreamId.read text = .ok id
  names : ∀ field ∈ entry.content, (text? field.1).isSome
  values : ∀ name value, valueOf? name entry.content = some value → (text? value).isSome

/-- Whether a record is what an entry says, read from a stream. -/
structure Reads (stream : String) (entry : SentEntry) (record : Record) : Prop where
  stream : record.stream = stream
  id : ∃ text, text? entry.id = some text ∧ StreamId.read text = .ok record.id
  fields : ∀ name, record.field? name = (valueOf? name entry.content).bind text?

end SentEntry

/-- The entries of a stream in a reply. -/
structure SentPart where
  stream : String
  entries : List SentEntry

/-- The bytes of a text. -/
def encoded (text : String) : List UInt8 :=
  text.toByteArray.data.toList

/-- The entries of a stream behind its name. -/
def SentPart.reply (part : SentPart) : Reply :=
  .list [.bytes (encoded part.stream), .list (part.entries.map SentEntry.reply)]

/-- The reply to a read; where there are no entries it is nothing. -/
def replyOf (parts : List SentPart) : Reply :=
  if parts.isEmpty then .nothing else .list (parts.map SentPart.reply)

/-- The entries of a reply. -/
def entriesOf (parts : List SentPart) : List SentEntry :=
  parts.flatMap SentPart.entries

theorem text?_encoded (text : String) : text? (encoded text) = some text := by
  have same : (⟨(encoded text).toArray⟩ : ByteArray) = text.toByteArray := by
    rw [encoded, Array.toArray_toList]
  rw [text?, same, String.fromUTF8?, dif_pos text.isValidUTF8]
  rfl

/-! ### How it is taken apart -/

/-- The fault of bytes that encode no text. -/
def unencoded : Fault :=
  .plain .typeError "Invalid UTF-8"

theorem hinges_decoded (content : List UInt8) :
    Hinges (text? content).isSome (fun text => text? content = some text) (· = unencoded)
      (Reply.decoded content) := by
  rw [Reply.decoded]
  cases text? content with
  | none => exact Hinges.error Bool.false_ne_true rfl
  | some text => exact Hinges.ok rfl rfl

/-- Rows in which names and values take turns, the values as they are. -/
theorem hinges_rowsOf (content : List (List UInt8 × List UInt8)) (table : Table String Reply)
    (distinct : table.keys.Nodup) :
    Hinges (∀ field ∈ content, (text? field.1).isSome)
      (fun read : Table String Reply => read.keys.Nodup ∧ ∀ name, read.get? name =
        ((SentEntry.valueOf? name content).map Reply.bytes).or (table.get? name))
      (· = unencoded)
      (Reply.rowsOf Reply.whole table
        (content.flatMap fun field => [.bytes field.1, .bytes field.2])) := by
  -- the table grows in front of the fields that are left, so that theirs go before its values
  induction content generalizing table with
  | nil => exact Hinges.ok (List.forall_mem_nil _) ⟨distinct, fun name => rfl⟩
  | cons field rest inductionHypothesis =>
    rw [List.flatMap_cons, List.cons_append, List.cons_append, List.nil_append, Reply.rowsOf]
    refine ((hinges_decoded field.1).bind fun name named =>
      (inductionHypothesis (table.set name (.bytes field.2))
        (Table.nodup_keys_set distinct name _)).imp ?_).congr (by simp)
    rintro read ⟨distinct, values⟩
    refine ⟨distinct, fun other => (values other).trans ?_⟩
    rw [Table.get?_set, SentEntry.valueOf?, named, Option.map_or, Option.or_assoc]
    by_cases same : other = name
    · simp [same]
    · simp [same, Ne.symm same]

/-- A single name with its value, which becomes the only row of a table. -/
theorem hinges_row {Value : Type} {read : Reading Value} {value : Reply} {condition : Prop}
    {property : Value → Prop} (name : List UInt8)
    (hinges : Hinges condition property (· = unencoded) (read value)) :
    Hinges ((text? name).isSome ∧ condition)
      (fun table : Table String Value => ∃ key held, table = ⟨[(key, held)]⟩ ∧
        text? name = some key ∧ property held)
      (· = unencoded) (Reply.tableOf read (.list [.bytes name, value])) := by
  have single : Reply.tableOf read (.list [.bytes name, value]) =
      (Reply.decoded name).bind fun key =>
        (read value).bind fun held => .ok (⟨[(key, held)]⟩ : Table String Value) := by
    simp only [Reply.tableOf, List.length_cons, List.length_nil, Nat.zero_add, Nat.reduceAdd,
      Nat.mod_self, ↓reduceIte]
    rfl
  rw [single]
  refine ((hinges_decoded name).bind fun key named => hinges.bind fun held has =>
    Hinges.ok trivial ⟨key, held, rfl, named, has⟩).congr ?_
  rw [and_true]

namespace SentEntry

/-- Whether the id and the names of an entry are texts. -/
def Spelled (entry : SentEntry) : Prop :=
  (text? entry.id).isSome ∧ ∀ field ∈ entry.content, (text? field.1).isSome

/-- Whether an entry is read as one whose values are left as they are. -/
structure Raw (entry : SentEntry) (raw : RawEntry) : Prop where
  spelled : entry.Spelled
  id : text? entry.id = some raw.id
  distinct : raw.fields.keys.Nodup
  values : ∀ name, raw.fields.get? name = (valueOf? name entry.content).map Reply.bytes

theorem hinges_content (entry : SentEntry) :
    Hinges (∀ field ∈ entry.content, (text? field.1).isSome)
      (fun read : Table String Reply => read.keys.Nodup ∧
        ∀ name, read.get? name = (valueOf? name entry.content).map Reply.bytes)
      (· = unencoded)
      (Reply.tableOf Reply.whole entry.contentReply) := by
  rw [content, contentReply]
  cases entry.fields with
  | none => exact Hinges.ok (List.forall_mem_nil _) ⟨List.nodup_nil, fun name => rfl⟩
  | some fields =>
    have even : (fields.flatMap fun field => [Reply.bytes field.1, .bytes field.2]).length % 2 =
        0 := by
      simp
    simp only [Reply.tableOf, even, ↓reduceIte]
    refine (hinges_rowsOf fields .empty List.nodup_nil).imp ?_
    rintro read ⟨distinct, values⟩
    exact ⟨distinct, fun name => by simpa using values name⟩

/-- An entry alone, which becomes the only row of a table. -/
theorem hinges_reply (entry : SentEntry) :
    Hinges entry.Spelled
      (fun rows => ∃ raw : RawEntry, rows = ⟨[(raw.id, raw.fields)]⟩ ∧ entry.Raw raw)
      (· = unencoded) (Reply.tableOf (Reply.tableOf Reply.whole) entry.reply) := by
  refine (hinges_row entry.id entry.hinges_content).and_condition.imp ?_
  rintro _ ⟨spelled, id, fields, rfl, named, distinct, values⟩
  exact ⟨⟨id, fields⟩, rfl, spelled, named, distinct, values⟩

end SentEntry

/-- The only rows of tables, put together. -/
theorem forall₂_rows {entries : List SentEntry} {rows : List (Table String (Table String Reply))}
    (each : List.Forall₂ (fun entry row => ∃ raw : RawEntry,
      row = ⟨[(raw.id, raw.fields)]⟩ ∧ entry.Raw raw) entries rows) :
    List.Forall₂ SentEntry.Raw entries
      (rows.flatMap fun row => row.rows.map fun entry => ⟨entry.1, entry.2⟩) := by
  induction each with
  | nil => exact .nil
  | cons first _ inductionHypothesis =>
    obtain ⟨raw, rfl, same⟩ := first
    exact .cons same inductionHypothesis

theorem hinges_entries (entries : List SentEntry) :
    Hinges (∀ entry ∈ entries, entry.Spelled) (List.Forall₂ SentEntry.Raw entries)
      (· = unencoded) (Reply.entries (.list (entries.map SentEntry.reply))) := by
  have each := Hinges.mapM_self SentEntry.hinges_reply entries
  rw [Reply.entries, Reply.listOf, List.mapM_map]
  exact each.map _ fun rows => forall₂_rows

/-- The entries of one stream behind its name. -/
theorem hinges_part (part : SentPart) :
    Hinges (∀ entry ∈ part.entries, entry.Spelled)
      (fun rows => ∃ name raws, rows = ⟨[(name, raws)]⟩ ∧
        List.Forall₂ SentEntry.Raw part.entries raws)
      (· = unencoded) (Reply.tableOf Reply.entries part.reply) := by
  refine ((hinges_row (encoded part.stream) (hinges_entries part.entries)).imp ?_).congr ?_
  · rintro _ ⟨name, raws, rfl, -, same⟩
    exact ⟨name, raws, rfl, same⟩
  · rw [text?_encoded, Option.isSome_some, eq_self, true_and]

theorem forall₂_parts {parts : List SentPart} {rows : List (Table String (List RawEntry))}
    (each : List.Forall₂ (fun (part : SentPart) rows => ∃ name raws, rows = ⟨[(name, raws)]⟩ ∧
      List.Forall₂ SentEntry.Raw part.entries raws) parts rows) :
    List.Forall₂ SentEntry.Raw (entriesOf parts)
      (rows.flatMap fun row => row.rows.flatMap Prod.snd) := by
  induction each with
  | nil => exact .nil
  | cons first _ inductionHypothesis =>
    obtain ⟨name, raws, rfl, same⟩ := first
    rw [entriesOf, List.flatMap_cons, List.flatMap_cons, List.flatMap_singleton]
    exact List.rel_append same inductionHypothesis

theorem hinges_parts (parts : List SentPart) :
    Hinges (∀ entry ∈ entriesOf parts, entry.Spelled)
      (List.Forall₂ SentEntry.Raw (entriesOf parts)) (· = unencoded)
      (Reply.entriesByStream (.list (parts.map SentPart.reply))) := by
  have each := Hinges.mapM_self hinges_part parts
  rw [Reply.entriesByStream, Reply.listOf, List.mapM_map]
  exact (each.map _ fun rows => forall₂_parts).congr List.forall_mem_flatMap

theorem hinges_replyOf (parts : List SentPart) :
    Hinges (∀ entry ∈ entriesOf parts, entry.Spelled)
      (fun raws : Option (List RawEntry) =>
        List.Forall₂ SentEntry.Raw (entriesOf parts) (raws.getD []))
      (· = unencoded) (Reply.optional Reply.entriesByStream (replyOf parts)) := by
  cases parts with
  | nil => exact Hinges.ok (List.forall_mem_nil _) List.Forall₂.nil
  | cons part rest => exact (hinges_parts (part :: rest)).map some fun raws same => same

/-! ### Error lines -/

theorem firstErrorOf?_of_none {items : List Reply}
    (each : ∀ item ∈ items, item.firstError? = none) : Reply.firstErrorOf? items = none := by
  induction items with
  | nil => rfl
  | cons item rest inductionHypothesis =>
    obtain ⟨first, later⟩ := List.forall_mem_cons.mp each
    rw [Reply.firstErrorOf?, first]
    exact inductionHypothesis later

theorem SentEntry.firstError?_reply (entry : SentEntry) : entry.reply.firstError? = none := by
  have content : entry.contentReply.firstError? = none := by
    rw [contentReply]
    cases entry.fields with
    | none => rfl
    | some fields =>
      refine firstErrorOf?_of_none (List.forall_mem_flatMap.mpr fun field _ => ?_)
      simp [Reply.firstError?]
  refine firstErrorOf?_of_none ?_
  simp [content, Reply.firstError?]

/-- A reply to a read holds no error line. -/
theorem firstError?_replyOf (parts : List SentPart) : (replyOf parts).firstError? = none := by
  have part (part : SentPart) : part.reply.firstError? = none := by
    have entries : Reply.firstErrorOf? (part.entries.map SentEntry.reply) = none :=
      firstErrorOf?_of_none (List.forall_mem_map.mpr fun entry _ => entry.firstError?_reply)
    refine firstErrorOf?_of_none ?_
    simp [entries, Reply.firstError?]
  rw [replyOf]
  split
  · rfl
  · exact firstErrorOf?_of_none (List.forall_mem_map.mpr fun sent _ => part sent)

/-! ### From entries to records -/

/-- The errors of entries that cannot be read. -/
def IsProtocol (error : StoreError) : Prop :=
  ∃ cause, error = .protocol cause

theorem hinges_readId (text : String) :
    Hinges (∃ id, StreamId.read text = .ok id) (fun id => StreamId.read text = .ok id) IsProtocol
      (StreamId.read text) := by
  cases read : StreamId.read text with
  | ok id => exact Hinges.ok ⟨id, rfl⟩ rfl
  | error error =>
    refine Hinges.error (fun ⟨id, never⟩ => by cases never) ?_
    rw [StreamId.read] at read
    dsimp only at read
    split at read
    · cases read
    · exact ⟨_, (Except.error.inj read).symm⟩

theorem hinges_fieldText (id : StreamId) (row : String × Reply) :
    Hinges (∃ value, Reply.text row.2 = .ok value)
      (fun field : String × String => field.1 = row.1 ∧ Reply.text row.2 = .ok field.2) IsProtocol
      (fieldText id row) := by
  rw [fieldText]
  cases Reply.text row.2 with
  | ok value => exact Hinges.ok ⟨value, rfl⟩ ⟨rfl, rfl⟩
  | error fault => exact Hinges.error (fun ⟨value, never⟩ => by cases never) ⟨_, rfl⟩

/-- A member of a list has its counterpart in a related one. -/
theorem exists_of_forall₂ {First Second : Type} {relation : First → Second → Prop}
    {first : List First} {second : List Second} (related : List.Forall₂ relation first second)
    {member : First} (within : member ∈ first) : ∃ other ∈ second, relation member other := by
  induction related with
  | nil => cases within
  | cons head _ inductionHypothesis =>
    rcases List.mem_cons.mp within with rfl | later
    · exact ⟨_, List.mem_cons_self, head⟩
    · obtain ⟨other, there, same⟩ := inductionHypothesis later
      exact ⟨other, List.mem_cons_of_mem _ there, same⟩

theorem text_bytes {content : List UInt8} {value : String} :
    Reply.text (.bytes content) = .ok value ↔ text? content = some value := by
  rw [Reply.text, Reply.decoded]
  cases text? content <;> simp

namespace SentEntry

variable {entry : SentEntry} {raw : RawEntry}

theorem Raw.mem_rows_iff (same : entry.Raw raw) {name : String} {value : Reply} :
    (name, value) ∈ raw.fields.rows ↔
      ∃ content, valueOf? name entry.content = some content ∧ Reply.bytes content = value := by
  rw [← Table.lookup?_eq_some_iff same.distinct]
  show raw.fields.get? name = some value ↔ _
  rw [same.values, Option.map_eq_some_iff]

/-- The texts of the rows of an entry, put in order, are its fields. -/
theorem Raw.get?_ofList (same : entry.Raw raw) {fields : List (String × String)}
    (related : List.Forall₂ (fun row field => field.1 = row.1 ∧ Reply.text row.2 = .ok field.2)
      raw.fields.rows fields) (name : String) :
    (Fields.ofList fields).get? name = (valueOf? name entry.content).bind text? := by
  have names : fields.map Prod.fst = raw.fields.keys := by
    have equal := (List.forall₂_map_right_iff.mpr (List.forall₂_map_left_iff.mpr
      (related.imp fun row field both => both.1.symm)))
    exact (List.forall₂_eq_eq_eq ▸ equal).symm
  cases found : valueOf? name entry.content with
  | none =>
    have absent : name ∉ fields.map Prod.fst := by
      rw [names, Table.mem_keys_iff, same.values, found]
      exact Bool.false_ne_true
    exact Fields.get?_foldl_of_absent absent .empty
  | some content =>
    obtain ⟨⟨other, value⟩, there, rfl, read⟩ :=
      exists_of_forall₂ related (same.mem_rows_iff.mpr ⟨content, found, rfl⟩)
    have distinct : (fields.map Prod.fst).Nodup := names ▸ same.distinct
    rw [Fields.get?_ofList_of_mem distinct there]
    exact (text_bytes.mp read).symm

/-- An entry is legible if its id is one and the values in its rows are texts. -/
theorem Raw.legible_iff (same : entry.Raw raw) :
    entry.Legible ↔ (∃ id, StreamId.read raw.id = .ok id) ∧
      ∀ row ∈ raw.fields.rows, ∃ value, Reply.text row.2 = .ok value := by
  refine ⟨fun legible => ⟨?_, fun row there => ?_⟩, fun both => ?_⟩
  · obtain ⟨text, id, spelled, read⟩ := legible.id
    obtain rfl := Option.some.inj (same.id.symm.trans spelled)
    exact ⟨id, read⟩
  · obtain ⟨content, found, read⟩ := same.mem_rows_iff.mp there
    obtain ⟨value, text⟩ := Option.isSome_iff_exists.mp (legible.values _ _ found)
    exact ⟨value, read ▸ text_bytes.mpr text⟩
  · obtain ⟨⟨id, read⟩, texts⟩ := both
    refine ⟨⟨raw.id, id, same.id, read⟩, same.spelled.2, fun name content found => ?_⟩
    obtain ⟨value, text⟩ := texts _ (same.mem_rows_iff.mpr ⟨content, found, rfl⟩)
    exact Option.isSome_iff_exists.mpr ⟨value, text_bytes.mp text⟩

/-- An entry as a record. -/
theorem Raw.hinges_toRecord (stream : String) (same : entry.Raw raw) :
    Hinges entry.Legible (entry.Reads stream) IsProtocol (raw.toRecord stream) := by
  refine ((hinges_readId raw.id).bind fun id read =>
    (Hinges.mapM_self (hinges_fieldText id) raw.fields.rows).bind fun fields related =>
      Hinges.ok trivial ⟨rfl, ⟨raw.id, same.id, read⟩, same.get?_ofList related⟩).congr ?_
  rw [same.legible_iff, and_true]

theorem Legible.spelled (legible : entry.Legible) : entry.Spelled := by
  obtain ⟨text, id, spelled, read⟩ := legible.id
  exact ⟨spelled ▸ rfl, legible.names⟩

end SentEntry

theorem toStoreError_unencoded : unencoded.toStoreError = .protocol unencoded.message := by
  decide

/-- A reply without error lines as what a request brought. -/
theorem hinges_result {Value : Type} {read : Reading Value} {reply : Reply} {condition : Prop}
    {property : Value → Prop} (hinges : Hinges condition property (· = unencoded) (read reply))
    (unrefused : reply.firstError? = none) (request : Request) (timeout : Nat) :
    Hinges condition property IsProtocol (request.result timeout read (.replied reply)) := by
  rw [Request.result, unrefused]
  dsimp only
  refine ⟨fun holds => ?_, fun fails => ?_⟩
  · obtain ⟨value, answered, has⟩ := hinges.granted holds
    exact ⟨value, by rw [answered], has⟩
  · obtain ⟨fault, answered, rfl⟩ := hinges.refused fails
    exact ⟨_, by rw [answered], _, toStoreError_unencoded⟩

/-- What a read makes of a reply: a record for each entry if all are legible, else an error. -/
theorem hinges_answer (stream group consumer : String) (offset : ReadOffset)
    (count timeout : Nat) (parts : List SentPart) :
    Hinges (∀ entry ∈ entriesOf parts, entry.Legible)
      (List.Forall₂ (SentEntry.Reads stream) (entriesOf parts)) IsProtocol
      ((Call.readGroup stream group consumer offset count).answer timeout
        (.replied (replyOf parts))) := by
  refine ((hinges_result (hinges_replyOf parts) (firstError?_replyOf parts) _ timeout).bind
    fun raws pairs => Hinges.mapM (fun entry raw same => same.hinges_toRecord stream)
      pairs).congr ⟨fun all => ⟨fun entry member => (all entry member).spelled, all⟩, And.right⟩

/-- An entry that is not legible fails the read, whatever the others are. -/
theorem answer_of_illegible (stream group consumer : String) (offset : ReadOffset)
    (count timeout : Nat) {parts : List SentPart}
    (illegible : ∃ entry ∈ entriesOf parts, ¬ entry.Legible) :
    ∃ cause, (Call.readGroup stream group consumer offset count).answer timeout
      (.replied (replyOf parts)) = .error (.protocol cause) := by
  obtain ⟨entry, member, unreadable⟩ := illegible
  obtain ⟨_, failed, cause, rfl⟩ := (hinges_answer stream group consumer offset count timeout
    parts).refused fun all => unreadable (all entry member)
  exact ⟨cause, failed⟩

end Remote

/-! ### What becomes of the listener -/

/-- Whether a phase is between reads from an offset. -/
def ListenerPhase.Awaits (offset : ReadOffset) (phase : ListenerPhase) : Prop :=
  phase = .reading offset ∨ ∃ until_, phase = .idle offset until_

namespace Course

variable {course : Course} {offset : ReadOffset} {number : Nat}

/-- Whether a step, if it reads, meets a reply with an entry that is not legible, and so the error
that the call makes of it. -/
def Baffled (course : Course) (number : Nat) : Prop :=
  ∀ offset, (course.state number).1 = .reading offset →
    ∃ (timeout : Nat) (parts : List Remote.SentPart) (error : StoreError),
      (∃ entry ∈ Remote.entriesOf parts, ¬ entry.Legible) ∧
      (Remote.Call.readGroup course.spec.stream course.spec.group course.spec.consumer offset
        course.settings.readCount).answer timeout (.replied (Remote.replyOf parts)) =
          .error error ∧
      (course.pipeline number).Refuses .readGroup course.spec.stream error

theorem Baffled.refused (baffled : course.Baffled number)
    (reading : (course.state number).1 = .reading offset) :
    ∃ cause, (course.pipeline number).Refuses .readGroup course.spec.stream (.protocol cause) := by
  obtain ⟨timeout, parts, error, illegible, answered, refuses⟩ := baffled offset reading
  obtain ⟨cause, failed⟩ := Remote.answer_of_illegible course.spec.stream course.spec.group
    course.spec.consumer offset course.settings.readCount timeout illegible
  obtain rfl := Except.error.inj (answered.symm.trans failed)
  exact ⟨cause, refuses⟩

/-- A read that meets such a reply leaves the listener waiting at its offset. -/
theorem Baffled.state_of_reading (baffled : course.Baffled number)
    (reading : (course.state number).1 = .reading offset) :
    course.state (number + 1) =
      (.idle offset (course.now number + course.settings.idleWait), (course.state number).2) := by
  obtain ⟨cause, refuses⟩ := baffled.refused reading
  obtain ⟨after, asked⟩ := Pipeline.ask_of_refuses refuses fun store =>
    store.readGroup course.spec.stream course.spec.group course.spec.consumer offset
      course.settings.readCount
  have failed : ((course.pipeline number).service.readGroup course.spec.stream course.spec.group
      course.spec.consumer offset course.settings.readCount).1 = .error (.protocol cause) :=
    congrArg Prod.fst asked
  refine Prod.ext ?_ ?_
  · show (Listener.step _ _ false _ _ _).1 = _
    rw [reading]
    exact Listener.read_of_refuses course.settings (course.now number) offset refuses
  · show Listener.tally _ _ _ _ _ _ = _
    rw [reading, Listener.tally]
    dsimp only
    rw [failed]

/-- A listener that waits at an offset reads again from there when its time has come. -/
theorem state_of_idle {until_ : Nat} (waiting : (course.state number).1 = .idle offset until_) :
    course.state (number + 1) =
      (if until_ ≤ course.now number then .reading offset else .idle offset until_,
        (course.state number).2) := by
  refine Prod.ext ?_ ?_
  · show (Listener.step _ _ false _ _ _).1 = _
    rw [waiting, Listener.step, if_neg Bool.false_ne_true]
    split <;> rfl
  · show Listener.tally _ _ _ _ _ _ = _
    rw [waiting]
    rfl

/-- One step of a listener between reads from an offset, which has done nothing afterwards. -/
theorem Baffled.awaits_succ (baffled : course.Baffled number)
    (awaits : (course.state number).1.Awaits offset) :
    (course.state (number + 1)).1.Awaits offset ∧
      (course.state (number + 1)).2 = (course.state number).2 := by
  rcases awaits with reading | ⟨until_, waiting⟩
  · rw [baffled.state_of_reading reading]
    exact ⟨Or.inr ⟨_, rfl⟩, rfl⟩
  · rw [state_of_idle waiting]
    refine ⟨?_, rfl⟩
    dsimp only
    split
    · exact Or.inl rfl
    · exact Or.inr ⟨_, rfl⟩

/-- Any number of steps of a listener that meets such a reply whenever it reads. -/
theorem awaits_of_baffled {start : Nat} (awaits : (course.state start).1.Awaits offset)
    (baffled : ∀ number, start ≤ number → course.Baffled number) :
    ∀ number, start ≤ number → (course.state number).1.Awaits offset ∧
      (course.state number).2 = (course.state start).2 := by
  intro number from_
  induction number, from_ using Nat.le_induction with
  | base => exact ⟨awaits, rfl⟩
  | succ number from_ inductionHypothesis =>
    obtain ⟨still, done⟩ := (baffled number from_).awaits_succ inductionHypothesis.1
    exact ⟨still, done.trans inductionHypothesis.2⟩

/-- While the time goes on, a listener that waits at an offset reads from there again. -/
theorem reads_again {until_ : Nat} (waiting : (course.state number).1 = .idle offset until_)
    (clock : ∀ time, ∃ number, ∀ later, number ≤ later → time ≤ course.now later) :
    ∃ again, number ≤ again ∧ (course.state again).1 = .reading offset := by
  obtain ⟨late, reached⟩ := clock until_
  -- until a read, the listener keeps waiting for the same time
  have kept : ∀ later, number ≤ later →
      (∃ again, number ≤ again ∧ (course.state again).1 = .reading offset) ∨
        (course.state later).1 = .idle offset until_ := by
    intro later from_
    induction later, from_ using Nat.le_induction with
    | base => exact Or.inr waiting
    | succ later from_ inductionHypothesis =>
      refine inductionHypothesis.elim Or.inl fun still => ?_
      have next := congrArg Prod.fst (state_of_idle still)
      by_cases come : until_ ≤ course.now later
      · rw [if_pos come] at next
        exact Or.inl ⟨later + 1, Nat.le_succ_of_le from_, next⟩
      · rw [if_neg come] at next
        exact Or.inr next
  rcases kept (max number late) (Nat.le_max_left _ _) with found | still
  · exact found
  · have next := congrArg Prod.fst (state_of_idle still)
    rw [if_pos (reached _ (Nat.le_max_right _ _))] at next
    exact ⟨_, Nat.le_succ_of_le (Nat.le_max_left _ _), next⟩

end Course

namespace Remote

/-- What a read makes of the entries in a reply, and where that leaves a listener. If all entries
are legible, it hands over what each of them says, in their order. If one is not, it hands over
none, but an error that is not critical. A listener that meets such a reply whenever it reads stays
at its offset while the time goes on: it reads from there again and again, and in all that time it
has received no batch, dispatched no record and acknowledged nothing. -/
theorem illegible_entry_withholds_all (stream group consumer : String) (offset : ReadOffset)
    (count timeout : Nat) (parts : List SentPart) :
    ((∀ entry ∈ entriesOf parts, entry.Legible) →
      ∃ records, (Call.readGroup stream group consumer offset count).answer timeout
          (.replied (replyOf parts)) = .ok records ∧
        List.Forall₂ (SentEntry.Reads stream) (entriesOf parts) records) ∧
    ((∃ entry ∈ entriesOf parts, ¬ entry.Legible) →
      ∃ error, (Call.readGroup stream group consumer offset count).answer timeout
          (.replied (replyOf parts)) = .error error ∧
        (∃ cause, error = .protocol cause) ∧ error.isCritical = false) ∧
    ∀ (course : Course) (start : Nat) (halted : ReadOffset),
      (course.state start).1 = .reading halted →
      (∀ number, start ≤ number → course.Baffled number) →
      (∀ time, ∃ number, ∀ later, number ≤ later → time ≤ course.now later) →
        ∀ number, start ≤ number →
          (course.state number).1.Awaits halted ∧
            (course.state number).2 = (course.state start).2 ∧
            ∃ again, number ≤ again ∧ (course.state again).1 = .reading halted := by
  refine ⟨(hinges_answer stream group consumer offset count timeout parts).granted,
    fun illegible => ?_, ?_⟩
  · obtain ⟨cause, failed⟩ :=
      answer_of_illegible stream group consumer offset count timeout illegible
    exact ⟨_, failed, ⟨cause, rfl⟩, rfl⟩
  · intro course start halted reading baffled clock number from_
    obtain ⟨awaits, done⟩ := Course.awaits_of_baffled (Or.inl reading) baffled number from_
    refine ⟨awaits, done, ?_⟩
    rcases awaits with now | ⟨until_, waiting⟩
    · exact ⟨number, Nat.le_refl _, now⟩
    · exact Course.reads_again waiting clock

/-- An entry all of whose bytes encode texts is legible if its id is one. -/
theorem SentEntry.legible_of_texts {entry : SentEntry}
    (id : ∃ text id, text? entry.id = some text ∧ StreamId.read text = .ok id)
    (texts : ∀ field ∈ entry.content, (text? field.1).isSome ∧ (text? field.2).isSome) :
    entry.Legible := by
  refine ⟨id, fun field member => (texts field member).1, fun name value found => ?_⟩
  generalize entry.content = content at texts found
  induction content with
  | nil => cases found
  | cons field rest inductionHypothesis =>
    obtain ⟨first, later⟩ := List.forall_mem_cons.mp texts
    rw [valueOf?, Option.or_eq_some_iff] at found
    rcases found with behind | ⟨-, here⟩
    · exact inductionHypothesis later behind
    · split at here
      · exact Option.some.inj here ▸ first.2
      · cases here

/-- An entry whose only value is a text. -/
def sound : SentEntry :=
  ⟨encoded "1-0", some [(encoded "a", encoded "b")]⟩

/-- An entry whose only value is none. -/
def mangled : SentEntry :=
  ⟨encoded "2-0", some [(encoded "a", [0xff, 0xfe])]⟩

theorem legible_sound : sound.Legible := by
  refine SentEntry.legible_of_texts ⟨"1-0", ⟨1, 0⟩, text?_encoded _, by decide⟩ ?_
  simp [sound, SentEntry.content, text?_encoded]

theorem not_legible_mangled : ¬ mangled.Legible := fun legible =>
  absurd (legible.values "a" [0xff, 0xfe] (by decide)) (by decide)

/-- The reply with both of them. -/
def mixed : List SentPart :=
  [⟨"orders", [sound, mangled]⟩]

/-- The error that it leads to. -/
def unreadable : StoreError :=
  .protocol "Field 'a' of 2-0 is not a string: Invalid UTF-8- TypeError"

theorem answer_mixed (stream group consumer : String) (offset : ReadOffset) (count timeout : Nat) :
    (Call.readGroup stream group consumer offset count).answer timeout (.replied (replyOf mixed)) =
      .error unreadable := by
  have displayed : StreamId.display ⟨2, 0⟩ = "2-0" := by decide +kernel
  have failed : (Call.readGroup stream group consumer offset count).answer timeout
      (.replied (replyOf mixed)) = .error (.protocol ("Field '" ++ "a" ++ "' of " ++
        StreamId.display ⟨2, 0⟩ ++ " is not a string: " ++ unencoded.message)) := rfl
  rw [failed, displayed]
  rfl

/-- A listener that meets it whenever it reads. -/
def baffled : Course where
  settings := ⟨2, 100, true⟩
  spec := ⟨"orders", "audit", "left"⟩
  now := id
  pipeline := fun _ => ErrorLine.refusing .readGroup unreadable

theorem mangled_mem_mixed : mangled ∈ entriesOf mixed := by
  simp [mixed, entriesOf]

theorem baffled_baffled (number : Nat) : baffled.Baffled number := fun offset _ =>
  ⟨0, mixed, unreadable, ⟨mangled, mangled_mem_mixed, not_legible_mangled⟩,
    answer_mixed _ _ _ offset _ _, ErrorLine.refuses_refusing .readGroup "orders" unreadable⟩

/-- A reply with one sound entry is read, one with a mangled entry behind it is not, and a listener
that meets that reply whenever it reads never gets past it. -/
theorem mangled_entry_stops_replay :
    (∃ records, (Call.readGroup "orders" "audit" "left" .lastConsumed 2).answer 0
        (.replied (replyOf [⟨"orders", [sound]⟩])) = .ok records ∧
          List.Forall₂ (SentEntry.Reads "orders") [sound] records) ∧
      (∃ error, (Call.readGroup "orders" "audit" "left" .lastConsumed 2).answer 0
        (.replied (replyOf mixed)) = .error error ∧
          (∃ cause, error = .protocol cause) ∧ error.isCritical = false) ∧
      ∀ number, 1 ≤ number →
        (baffled.state number).1.Awaits (.pendingAfter .least) ∧
          (baffled.state number).2 = (baffled.state 1).2 ∧
          ∃ again, number ≤ again ∧
            (baffled.state again).1 = .reading (.pendingAfter .least) := by
  have whole := illegible_entry_withholds_all "orders" "audit" "left" .lastConsumed 2 0
    [⟨"orders", [sound]⟩]
  have broken := illegible_entry_withholds_all "orders" "audit" "left" .lastConsumed 2 0 mixed
  refine ⟨whole.1 ?_, broken.2.1 ?_, ?_⟩
  · simp [entriesOf, legible_sound]
  · exact ⟨mangled, mangled_mem_mixed, not_legible_mangled⟩
  · exact broken.2.2 baffled 1 _ rfl (fun number _ => baffled_baffled number)
      fun time => ⟨time, fun _ late => late⟩

/-- A sound entry in front of a mangled one is not handed over. -/
theorem neighbour_of_mangled_is_lost :
    ¬ ∀ (stream group consumer : String) (offset : ReadOffset) (count timeout : Nat)
      (parts : List SentPart),
      (∀ entry ∈ entriesOf parts,
        entry.Legible ∨ ∃ field ∈ entry.content, text? field.2 = none) →
      ∃ records, (Call.readGroup stream group consumer offset count).answer timeout
          (.replied (replyOf parts)) = .ok records ∧
        ∀ entry ∈ entriesOf parts, entry.Legible →
          ∃ record ∈ records, entry.Reads stream record := by
  intro handed
  have value : text? [0xff, 0xfe] = none := by decide
  have each : ∀ entry ∈ entriesOf mixed,
      entry.Legible ∨ ∃ field ∈ entry.content, text? field.2 = none :=
    List.forall_mem_cons.mpr ⟨Or.inl legible_sound,
      List.forall_mem_singleton.mpr (Or.inr ⟨_, List.mem_cons_self, value⟩)⟩
  obtain ⟨records, answered, -⟩ := handed "orders" "audit" "left" .lastConsumed 2 0 mixed each
  rw [answer_mixed] at answered
  cases answered

end Remote

end AccessFeed
