/-
This file joins the two kinds of kept rows into the archive and lets its calls
fail by a plan of outages.

The archive exists in two kinds: one is lost when the program ends, the other is
kept on disk under a path. Both are seeded with a row for every category that
has none. A call may fail before it changes anything. One that changes an archive
on disk may also fail afterwards, when the change is written out: it then answers
a failure although it has taken effect.
-/

import AccessFeed.Archive.Category
import AccessFeed.Archive.Event
import AccessFeed.Outage

namespace AccessFeed.Archive

open Calendar (Instant)
open Event (Category)

/-- The calls of the two repositories of an archive. -/
inductive ArchiveMethod
  | create
  | findBetween
  | deleteBefore
  | count
  | findCode
  | findId
  | findAll
  | existsCode
  | save
deriving DecidableEq, Repr

namespace ArchiveMethod

/-- All calls. -/
def all : List ArchiveMethod :=
  [.create, .findBetween, .deleteBefore, .count, .findCode, .findId, .findAll, .existsCode, .save]

/-- The name of a call. -/
def name : ArchiveMethod → String
  | .create => "create"
  | .findBetween => "find_by_created_at_between"
  | .deleteBefore => "delete_by_created_at_before"
  | .count => "count"
  | .findCode => "find_by_code_not_deleted"
  | .findId => "find_by_id_not_deleted"
  | .findAll => "find_all_not_deleted"
  | .existsCode => "exists_by_code"
  | .save => "save"

/-- The call with a given name. -/
def ofName? (name : String) : Option ArchiveMethod :=
  all.find? fun method => method.name == name

end ArchiveMethod

/-- The kept events, in one of the two tables. -/
inductive EventRows
  | table (rows : EventTable)
  | tree (rows : EventTree)
deriving DecidableEq, Repr

namespace EventRows

/-- Keeps an event unless one from the same record is kept. -/
def create (rows : EventRows) (now : Instant) (event : NewEvent) : Creation × EventRows :=
  match rows with
  | .table held =>
    let (creation, left) := held.create now event
    (creation, .table left)
  | .tree held =>
    let (creation, left) := held.create now event
    (creation, .tree left)

/-- The events of a span of time. -/
def find (rows : EventRows) (start stop : Instant) : List KeptEvent :=
  match rows with
  | .table held => held.find start stop
  | .tree held => held.find start stop

/-- Removes the events created before a time and answers how many there were. -/
def removeBefore (rows : EventRows) (threshold : Instant) : Nat × EventRows :=
  match rows with
  | .table held =>
    let (count, left) := held.removeBefore threshold
    (count, .table left)
  | .tree held =>
    let (count, left) := held.removeBefore threshold
    (count, .tree left)

/-- The number of events. -/
def count : EventRows → Nat
  | .table held => held.count
  | .tree held => held.count

/-- The event from a record. -/
def get? (rows : EventRows) (sourceId : String) : Option KeptEvent :=
  match rows with
  | .table held => held.get? sourceId
  | .tree held => held.get? sourceId

end EventRows

/-- Where an archive keeps its rows. -/
inductive Backend
  | memory
  | disk
deriving DecidableEq, Repr

end AccessFeed.Archive

namespace AccessFeed

open Archive (ArchiveMethod Backend CategoryRow CategoryTable Creation EventRows KeptEvent NewEvent)
open Calendar (Instant)
open Event (Category)

/-- An archive of events and categories behind a plan of outages, with another plan for writing out
what its calls change. -/
structure Archive where
  events : EventRows
  categories : CategoryTable
  outages : List (Outage ArchiveMethod Failure)
  flushes : List (Outage ArchiveMethod Failure) := []
deriving Repr

namespace Archive

/-- What a call answers, and the archive it leaves. -/
abbrev Reply (Value : Type) : Type := Except Failure Value × Archive

/-- An archive without rows. -/
def empty : Backend → Archive
  | .memory => { events := .table .empty, categories := .empty, outages := [] }
  | .disk => { events := .tree .empty, categories := .emptyPersistent, outages := [] }

/-- The archive after a restart of the program. -/
def reopened (archive : Archive) : Backend → Archive
  | .memory => empty .memory
  | .disk =>
    { archive with
      categories := { archive.categories with numbering := archive.categories.numbering.reopened }
      outages := []
      flushes := [] }

/-- Makes a call, which fails if it meets an outage. -/
def call {Value : Type} (archive : Archive) (method : ArchiveMethod)
    (operation : Archive → Reply Value) : Reply Value :=
  match Outage.meet method none archive.outages with
  | (some error, outages) => (.error error, { archive with outages })
  | (none, outages) => operation { archive with outages }

/-- Answers a call, once what it changed is written out. If this fails, so does the call. What is
kept in memory is not written anywhere. -/
def flush {Value : Type} (archive : Archive) (method : ArchiveMethod) (changed : Bool)
    (value : Value) : Reply Value :=
  match archive.events, changed with
  | .tree _, true =>
    match Outage.meet method none archive.flushes with
    | (some error, flushes) => (.error error, { archive with flushes })
    | (none, flushes) => (.ok value, { archive with flushes })
  | _, _ => (.ok value, archive)

/-! ### Events -/

/-- Keeps an event unless one from the same record is kept. -/
def create (archive : Archive) (now : Instant) (event : NewEvent) : Reply Creation :=
  archive.call .create fun archive =>
    let (creation, events) := archive.events.create now event
    { archive with events }.flush .create (!creation.isDuplicate) creation

/-- The events of a span of time. -/
def findBetween (archive : Archive) (start stop : Instant) : Reply (List KeptEvent) :=
  archive.call .findBetween fun archive => (.ok (archive.events.find start stop), archive)

/-- Removes the events created before a time. -/
def deleteBefore (archive : Archive) (threshold : Instant) : Reply Nat :=
  archive.call .deleteBefore fun archive =>
    let (count, events) := archive.events.removeBefore threshold
    { archive with events }.flush .deleteBefore true count

/-- The number of events. -/
def count (archive : Archive) : Reply Nat :=
  archive.call .count fun archive => (.ok archive.events.count, archive)

/-! ### Categories -/

/-- The row of a category that is not deleted. -/
def findCode (archive : Archive) (category : Category) : Reply (Option CategoryRow) :=
  archive.call .findCode fun archive => (.ok (archive.categories.findCode? category), archive)

/-- The row with an id, unless it is deleted. -/
def findId (archive : Archive) (id : Nat) : Reply (Option CategoryRow) :=
  archive.call .findId fun archive => (.ok (archive.categories.findId? id), archive)

/-- The rows that are not deleted. -/
def findAll (archive : Archive) : Reply (List CategoryRow) :=
  archive.call .findAll fun archive => (.ok archive.categories.active, archive)

/-- Whether a category has a row, deleted or not. -/
def existsCode (archive : Archive) (category : Category) : Reply Bool :=
  archive.call .existsCode fun archive => (.ok (archive.categories.hasCode category), archive)

/-- Saves a row. -/
def save (archive : Archive) (row : CategoryRow) : Reply CategoryRow :=
  archive.call .save fun archive =>
    let (answer, categories) := archive.categories.save row
    match answer with
    | .ok saved => { archive with categories }.flush .save true saved
    | .error failure => (.error failure, { archive with categories })

/-- Saves the default row of every category of a list that has none, and answers how many. The
first failure ends the seeding. -/
def seedAll (archive : Archive) (now : Instant) : List Category → Reply Nat
  | [] => (.ok 0, archive)
  | category :: rest =>
    match archive.existsCode category with
    | (.error failure, archive) => (.error failure, archive)
    | (.ok true, archive) => archive.seedAll now rest
    | (.ok false, archive) =>
      match archive.save (CategoryRow.seed now category) with
      | (.error failure, archive) => (.error failure, archive)
      | (.ok _, archive) =>
        let (answer, archive) := archive.seedAll now rest
        (answer.map (· + 1), archive)

/-- Saves the default row of every category that has none, and answers how many. -/
def seed (archive : Archive) (now : Instant) : Reply Nat :=
  archive.seedAll now Category.all

/-! ### Management of categories -/

/-- A row that was looked up, or the failure when there is none. -/
def orFail {Value : Type} (missing : Failure) : Reply (Option Value) → Reply Value
  | (.ok (some value), archive) => (.ok value, archive)
  | (.ok none, archive) => (.error missing, archive)
  | (.error failure, archive) => (.error failure, archive)

/-- Adds a category, which must not have a row yet. -/
def addCategory (archive : Archive) (now : Instant) (category : Category)
    (name description : String) : Reply CategoryRow :=
  match archive.existsCode category with
  | (.error failure, archive) => (.error failure, archive)
  | (.ok true, archive) => (.error (categoryTaken category), archive)
  | (.ok false, archive) => archive.save (CategoryRow.new now category name description)

/-- Changes a category that is not deleted. -/
def changeCategory (archive : Archive) (now : Instant) (id : Nat)
    (name description : Option String) (isDeleted : Option Bool) : Reply CategoryRow :=
  match orFail (noCategoryId id) (archive.findId id) with
  | (.error failure, archive) => (.error failure, archive)
  | (.ok row, archive) => archive.save (row.change now name description isDeleted)

/-- The row with an id. -/
def category (archive : Archive) (id : Nat) : Reply CategoryRow :=
  orFail (noCategoryId id) (archive.findId id)

/-- The row of a category. -/
def categoryOf (archive : Archive) (category : Category) : Reply CategoryRow :=
  orFail (noCategoryCode category) (archive.findCode category)

end Archive

end AccessFeed
