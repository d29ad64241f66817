/-
This file proves that the table of categories keeps one row for each code.

Nothing but the check of the callers keeps two rows of one code apart: a row is
added only for a code that no row has, deleted or not, and a row that is changed
keeps its id and its code. Every call comes down to a few turns of the table,
told once here. A turn adds a row under the next id, or replaces one that is not
deleted; so rows never vanish, ids are never given twice, and what is deleted
stays as it is.
-/

import Mathlib.Logic.Relation
import AccessFeed.Proofs.Publications
import AccessFeed.Proofs.Tables

namespace AccessFeed

open Archive (Backend CategoryRow CategoryTable Reply categoryTaken noCategoryId)
open Calendar (Instant)
open Event (Category)

/-! ### Rows of a table -/

namespace Table

variable {Key Value Kind : Type} [DecidableEq Key] {table : Table Key Value} {key : Key}

/-- Setting a key that holds a value of the same kind leaves the kinds of all values. -/
theorem map_values_set_of_present {kind : Value → Kind} {value held : Value}
    (present : table.get? key = some held) (same : kind value = kind held) :
    (table.set key value).values.map kind = table.values.map kind := by
  obtain ⟨rows⟩ := table
  show ((setRow key value rows).map Prod.snd).map kind = (rows.map Prod.snd).map kind
  replace present : lookup? key rows = some held := present
  induction rows with
  | nil => cases present
  | cons row rest inductionHypothesis =>
    obtain ⟨other, first⟩ := row
    rw [lookup?] at present
    rw [setRow]
    split at present
    · rename_i own
      obtain rfl := Option.some.inj present
      rw [if_pos own]
      exact congrArg (· :: _) same
    · rename_i different
      rw [if_neg different]
      exact congrArg (kind first :: ·) (inductionHypothesis present)

theorem values_set_of_absent (absent : table.get? key = none) (value : Value) :
    (table.set key value).values = table.values ++ [value] := by
  show (setRow key value table.rows).map Prod.snd = _
  rw [setRow_of_absent absent, List.map_append]
  rfl

theorem keys_set_of_absent (absent : table.get? key = none) (value : Value) :
    (table.set key value).keys = table.keys ++ [key] := by
  show (setRow key value table.rows).map Prod.fst = _
  rw [setRow_of_absent absent, List.map_append]
  rfl

end Table

namespace Archive

/-! ### Sound tables -/

/-- The number that is drawn next. -/
def Numbering.upcoming : Numbering → Nat
  | .counting next => next
  | .persistent next _ => next + 1

theorem Numbering.draw_fst (numbering : Numbering) : numbering.draw.1 = numbering.upcoming := by
  cases numbering <;> rfl

theorem Numbering.upcoming_draw (numbering : Numbering) :
    numbering.draw.2.upcoming = numbering.upcoming + 1 := by
  cases numbering <;> rfl

namespace CategoryTable

variable {table after : CategoryTable} {row : CategoryRow}

/-- Whether a table has at most one row for each code, each under its own id, which is positive and
was drawn. -/
structure Sound (table : CategoryTable) : Prop where
  own : table.rows.values.map CategoryRow.id = table.rows.keys
  distinct : table.rows.keys.Nodup
  single : (table.rows.values.map CategoryRow.category).Nodup
  drawn : ∀ id ∈ table.rows.keys, 0 < id ∧ id < table.numbering.upcoming
  positive : 0 < table.numbering.upcoming

theorem sound_empty : empty.Sound :=
  ⟨rfl, List.nodup_nil, List.nodup_nil, fun _ never => absurd never List.not_mem_nil, by decide⟩

theorem sound_emptyPersistent : emptyPersistent.Sound :=
  ⟨rfl, List.nodup_nil, List.nodup_nil, fun _ never => absurd never List.not_mem_nil, by decide⟩

theorem hasCode_iff {category : Category} :
    table.hasCode category = true ↔ category ∈ table.rows.values.map CategoryRow.category := by
  rw [hasCode, List.any_eq_true, List.mem_map]
  exact exists_congr fun row => and_congr_right fun _ => beq_iff_eq

namespace Sound

variable (sound : table.Sound)

include sound

theorem get?_iff {id : Nat} :
    table.rows.get? id = some row ↔ row ∈ table.rows.values ∧ row.id = id := by
  have listed : table.rows.get? id = some row ↔ (id, row) ∈ table.rows.rows :=
    Table.lookup?_eq_some_iff sound.distinct
  have own : table.rows.rows.map (fun entry => entry.2.id) = table.rows.rows.map Prod.fst :=
    (List.map_map.symm.trans sound.own)
  rw [List.map_inj_left] at own
  rw [listed]
  constructor
  · intro member
    exact ⟨List.mem_map_of_mem member, own _ member⟩
  · rintro ⟨among, rfl⟩
    obtain ⟨⟨key, _⟩, member, rfl⟩ := List.mem_map.mp among
    rw [own _ member]
    exact member

theorem get?_id (member : row ∈ table.rows.values) : table.rows.get? row.id = some row :=
  sound.get?_iff.mpr ⟨member, rfl⟩

theorem drawn_of_get? {id : Nat} (present : table.rows.get? id = some row) :
    0 < id ∧ id < table.numbering.upcoming :=
  sound.drawn id (Table.mem_keys_iff.mpr (by rw [present]; rfl))

/-- No row stands under the number that is drawn next. -/
theorem get?_upcoming : table.rows.get? table.numbering.upcoming = none := by
  cases present : table.rows.get? table.numbering.upcoming with
  | none => rfl
  | some row => exact absurd (sound.drawn_of_get? present).2 (Nat.lt_irrefl _)

theorem eq_of_category {other : CategoryRow} (member : row ∈ table.rows.values)
    (also : other ∈ table.rows.values) (same : other.category = row.category) : other = row :=
  List.inj_on_of_nodup_map sound.single also member same

end Sound

/-! ### Turns of a table -/

/-- A row with the number that is drawn next. -/
def numbered (table : CategoryTable) (row : CategoryRow) : CategoryRow :=
  { row with id := table.numbering.upcoming }

/-- The table with a row added under the number that is drawn next. -/
def adding (table : CategoryTable) (row : CategoryRow) : CategoryTable :=
  ⟨table.rows.set table.numbering.upcoming (table.numbered row), table.numbering.draw.2⟩

/-- The table with a row in place of the one of its id. -/
def replacing (table : CategoryTable) (row : CategoryRow) : CategoryTable :=
  { table with rows := table.rows.set row.id row }

/-- What becomes of a table at a time: a row is added for a code that had none, a row that is not
deleted is replaced by one of its id and code, or the numbering moves on. -/
inductive Turn (before : CategoryTable) : CategoryTable → Prop
  | added {row : CategoryRow} (absent : before.hasCode row.category = false) :
    Turn before (before.adding row)
  | changed {row held : CategoryRow} (present : before.rows.get? row.id = some held)
    (live : held.isDeleted = false) (same : row.category = held.category) :
    Turn before (before.replacing row)
  | moved {numbering : Numbering} (onward : before.numbering.upcoming ≤ numbering.upcoming) :
    Turn before { before with numbering }

/-- Whether every row is still there, under its id and with its code, and as it was if it was
deleted. -/
def Keeps (before after : CategoryTable) : Prop :=
  ∀ id row, before.rows.get? id = some row → ∃ still, after.rows.get? id = some still ∧
    still.category = row.category ∧ (row.isDeleted = true → still = row)

theorem keeps_refl (table : CategoryTable) : table.Keeps table :=
  fun _ row present => ⟨row, present, rfl, fun _ => rfl⟩

theorem Keeps.trans {between : CategoryTable} (first : table.Keeps between)
    (second : between.Keeps after) : table.Keeps after := by
  intro id row present
  obtain ⟨still, found, same, deleted⟩ := first id row present
  obtain ⟨later, left, alike, frozen⟩ := second id still found
  refine ⟨later, left, alike.trans same, fun gone => ?_⟩
  obtain rfl := deleted gone
  exact frozen gone

theorem values_adding (sound : table.Sound) (row : CategoryRow) :
    (table.adding row).rows.values = table.rows.values ++ [table.numbered row] :=
  Table.values_set_of_absent sound.get?_upcoming _

theorem Sound.turn (sound : table.Sound) (turn : table.Turn after) : after.Sound := by
  cases turn with
  | @added row absent =>
    have free := sound.get?_upcoming
    have unlisted : row.category ∉ table.rows.values.map CategoryRow.category := by
      rw [← hasCode_iff, absent]
      exact Bool.false_ne_true
    have keys : (table.adding row).rows.keys = table.rows.keys ++ [table.numbering.upcoming] :=
      Table.keys_set_of_absent free _
    exact {
      own := by
        rw [keys, values_adding sound, List.map_append, sound.own]
        rfl
      distinct := Table.nodup_keys_set sound.distinct _ _
      single := by
        rw [values_adding sound, List.map_append, List.map_singleton, ← List.concat_eq_append]
        exact sound.single.concat unlisted
      drawn := fun id member => by
        have positive := sound.positive
        rw [keys, List.mem_append, List.mem_singleton] at member
        show 0 < id ∧ id < table.numbering.draw.2.upcoming
        rw [Numbering.upcoming_draw]
        rcases member with earlier | rfl
        · have bounds := sound.drawn id earlier
          omega
        · omega
      positive := by
        show 0 < table.numbering.draw.2.upcoming
        rw [Numbering.upcoming_draw]
        exact Nat.succ_pos _ }
  | @changed row held present live same =>
    have place : row.id = held.id := ((sound.get?_iff.mp present).2).symm
    have listed : row.id ∈ table.rows.keys := Table.mem_keys_iff.mpr (by rw [present]; rfl)
    have keys := Table.keys_set_of_present listed row
    exact {
      own := (Table.map_values_set_of_present present place).trans (sound.own.trans keys.symm)
      distinct := Table.nodup_keys_set sound.distinct _ _
      single := (Table.map_values_set_of_present present same).symm ▸ sound.single
      drawn := fun id member => sound.drawn id (keys ▸ member)
      positive := sound.positive }
  | moved onward =>
    exact {
      own := sound.own
      distinct := sound.distinct
      single := sound.single
      drawn := fun id member =>
        ⟨(sound.drawn id member).1, Nat.lt_of_lt_of_le (sound.drawn id member).2 onward⟩
      positive := Nat.lt_of_lt_of_le sound.positive onward }

theorem Sound.keeps_turn (sound : table.Sound) (turn : table.Turn after) : table.Keeps after := by
  intro id row present
  cases turn with
  | added absent =>
    have elsewhere := Nat.ne_of_lt (sound.drawn_of_get? present).2
    exact ⟨row, (Table.get?_set_of_ne _ elsewhere _).trans present, rfl, fun _ => rfl⟩
  | @changed other held there live same =>
    by_cases own : id = other.id
    · subst own
      obtain rfl := Option.some.inj (present.symm.trans there)
      refine ⟨other, Table.get?_set_self _ _ _, same, fun deleted => ?_⟩
      exact absurd (live.symm.trans deleted) Bool.false_ne_true
    · exact ⟨row, (Table.get?_set_of_ne _ own _).trans present, rfl, fun _ => rfl⟩
  | moved => exact ⟨row, present, rfl, fun _ => rfl⟩

/-- Several turns, one after the other. -/
abbrev Turns (before after : CategoryTable) : Prop :=
  Relation.ReflTransGen Turn before after

theorem Sound.turns (sound : table.Sound) (turns : table.Turns after) : after.Sound := by
  induction turns with
  | refl => exact sound
  | tail _ turn inductionHypothesis => exact inductionHypothesis.turn turn

theorem Sound.keeps_turns (sound : table.Sound) (turns : table.Turns after) :
    table.Keeps after := by
  induction turns with
  | refl => exact table.keeps_refl
  | tail before turn inductionHypothesis =>
    exact inductionHypothesis.trans ((sound.turns before).keeps_turn turn)

/-- A code that has a row keeps one. -/
theorem Sound.hasCode_turns (sound : table.Sound) (turns : table.Turns after) {category : Category}
    (present : table.hasCode category = true) : after.hasCode category = true := by
  obtain ⟨row, member, rfl⟩ := List.mem_map.mp (hasCode_iff.mp present)
  obtain ⟨still, found, same, _⟩ := sound.keeps_turns turns _ _ (sound.get?_id member)
  rw [hasCode_iff, ← same]
  exact List.mem_map_of_mem ((sound.turns turns).get?_iff.mp found).1

/-! ### Saving -/

theorem save_new (fresh : row.id = 0) :
    table.save row = (.ok (table.numbered row), table.adding row) := by
  rw [save, if_pos fresh]
  dsimp only
  rw [Numbering.draw_fst]
  rfl

theorem Sound.save_change (sound : table.Sound) {held : CategoryRow}
    (present : table.rows.get? row.id = some held) :
    table.save row = (.ok row, table.replacing row) := by
  have positive := (sound.drawn_of_get? present).1
  rw [save, if_neg (by omega), if_pos (by rw [Table.contains, present]; rfl)]
  rfl

theorem Sound.hasCode_adding (sound : table.Sound) (row : CategoryRow) :
    (table.adding row).hasCode row.category = true := by
  rw [hasCode_iff, values_adding sound, List.map_append]
  exact List.mem_append_right _ (List.mem_singleton_self _)

end CategoryTable

/-! ### Calls -/

/-- A call by which categories are managed. -/
inductive CategoryCall
  | add (category : Category) (name description : String)
  | change (id : Nat) (name description : Option String) (isDeleted : Option Bool)
  | seed

/-- What such a call answers: the row it saved, or how many rows it seeded. -/
inductive CategoryReply
  | saved (row : CategoryRow)
  | seeded (count : Nat)

/-- Makes a call by which categories are managed. -/
def manage (archive : Archive) (now : Instant) : CategoryCall → Reply CategoryReply
  | .add category name description =>
    let (answer, archive) := archive.addCategory now category name description
    (answer.map .saved, archive)
  | .change id name description isDeleted =>
    let (answer, archive) := archive.changeCategory now id name description isDeleted
    (answer.map .saved, archive)
  | .seed =>
    let (answer, archive) := archive.seed now
    (answer.map .seeded, archive)

/-- Whether no outage of an archive is to come. -/
structure Calm (archive : Archive) : Prop where
  outages : archive.outages = []
  flushes : archive.flushes = []

section

variable {archive : Archive} (calm : archive.Calm) (now : Instant)

include calm

theorem answers_of_calm (method : ArchiveMethod) : archive.Answers method := by
  rw [Answers, calm.outages, calm.flushes]
  exact fun _ never => absurd never List.not_mem_nil

theorem call_of_calm {Value : Type} (method : ArchiveMethod)
    (operation : Archive → Reply Value) : archive.call method operation = operation archive :=
  call_of_answers (answers_of_calm calm method) operation

theorem existsCode_of_calm (category : Category) :
    archive.existsCode category = (.ok (archive.categories.hasCode category), archive) :=
  call_of_calm calm .existsCode _

theorem save_of_calm (row : CategoryRow) :
    archive.save row = ((archive.categories.save row).1,
      { archive with categories := (archive.categories.save row).2 }) := by
  have still (categories : CategoryTable) : Calm { archive with categories } :=
    ⟨calm.outages, calm.flushes⟩
  rw [save, call_of_calm calm]
  generalize archive.categories.save row = saved
  obtain ⟨answer, categories⟩ := saved
  cases answer with
  | error failure => rfl
  | ok row => exact flush_of_answers (answers_of_calm (still categories) .save) true row

/-- Adding a category fails if its code has a row, and adds one otherwise. -/
theorem addCategory_cases (category : Category) (name description : String) :
    (archive.categories.hasCode category = true ∧
      archive.addCategory now category name description =
        (.error (categoryTaken category), archive)) ∨
    ∃ row : CategoryRow, row.category = category ∧
      archive.categories.hasCode category = false ∧
      archive.addCategory now category name description = (.ok (archive.categories.numbered row),
        { archive with categories := archive.categories.adding row }) := by
  rw [addCategory, existsCode_of_calm calm]
  cases present : archive.categories.hasCode category with
  | true => exact Or.inl ⟨rfl, rfl⟩
  | false =>
    refine Or.inr ⟨CategoryRow.new now category name description, rfl, rfl, ?_⟩
    dsimp only
    rw [save_of_calm calm, CategoryTable.save_new rfl]

/-- Changing a category fails if its row is missing or deleted, and replaces it otherwise. -/
theorem changeCategory_cases (sound : archive.categories.Sound) (id : Nat)
    (name description : Option String) (isDeleted : Option Bool) :
    archive.changeCategory now id name description isDeleted =
        (.error (noCategoryId id), archive) ∨
    ∃ row held : CategoryRow, archive.categories.rows.get? row.id = some held ∧
      held.isDeleted = false ∧ row.category = held.category ∧
      archive.changeCategory now id name description isDeleted =
        (.ok row, { archive with categories := archive.categories.replacing row }) := by
  have looked : archive.findId id = (.ok (archive.categories.findId? id), archive) :=
    call_of_calm calm .findId _
  rw [changeCategory, looked]
  cases found : archive.categories.findId? id with
  | none => exact Or.inl rfl
  | some held =>
    obtain ⟨present, live⟩ := Option.filter_eq_some_iff.mp found
    have place := (sound.get?_iff.mp present).2
    have there : archive.categories.rows.get?
        (held.change now name description isDeleted).id = some held := place ▸ present
    refine Or.inr ⟨held.change now name description isDeleted, held, there, ?_, rfl, ?_⟩
    · simpa using live
    · dsimp only [orFail]
      rw [save_of_calm calm, sound.save_change there]

/-- Where every code has a row, seeding does nothing. -/
theorem seedAll_of_present {categories : List Category}
    (present : ∀ category ∈ categories, archive.categories.hasCode category = true) :
    archive.seedAll now categories = (.ok 0, archive) := by
  induction categories with
  | nil => rfl
  | cons category rest inductionHypothesis =>
    obtain ⟨own, others⟩ := List.forall_mem_cons.mp present
    rw [seedAll, existsCode_of_calm calm, own]
    exact inductionHypothesis others

/-- Seeding takes turns until every code has a row. -/
theorem seedAll_turns (sound : archive.categories.Sound) (categories : List Category) :
    ∃ count table, archive.seedAll now categories =
        (.ok count, { archive with categories := table }) ∧
      archive.categories.Turns table ∧
      ∀ category ∈ categories, table.hasCode category = true := by
  induction categories generalizing archive with
  | nil => exact ⟨0, archive.categories, rfl, .refl, fun _ never => absurd never List.not_mem_nil⟩
  | cons category rest inductionHypothesis =>
    rw [seedAll, existsCode_of_calm calm]
    cases present : archive.categories.hasCode category with
    | true =>
      obtain ⟨count, table, seeded, turns, others⟩ := inductionHypothesis calm sound
      exact ⟨count, table, seeded, turns,
        List.forall_mem_cons.mpr ⟨sound.hasCode_turns turns present, others⟩⟩
    | false =>
      have turn : archive.categories.Turn
          (archive.categories.adding (CategoryRow.seed now category)) := .added present
      obtain ⟨count, table, seeded, turns, others⟩ := @inductionHypothesis
        { archive with categories := archive.categories.adding (CategoryRow.seed now category) }
        ⟨calm.outages, calm.flushes⟩ (sound.turn turn)
      have own := (sound.turn turn).hasCode_turns turns (sound.hasCode_adding _)
      refine ⟨count + 1, table, ?_, .head turn turns, List.forall_mem_cons.mpr ⟨own, others⟩⟩
      dsimp only
      rw [save_of_calm calm, CategoryTable.save_new rfl]
      dsimp only
      rw [seeded]
      rfl

/-- A call takes turns, and if it fails none. -/
theorem manage_turns (sound : archive.categories.Sound) (call : CategoryCall) :
    ∃ answer table, archive.manage now call = (answer, { archive with categories := table }) ∧
      archive.categories.Turns table ∧
      ∀ failure, answer = .error failure → table = archive.categories := by
  cases call with
  | add category name description =>
    rw [manage]
    rcases addCategory_cases calm now category name description with
      ⟨_, refused⟩ | ⟨row, rfl, absent, added⟩
    · rw [refused]
      exact ⟨_, _, rfl, .refl, fun _ _ => rfl⟩
    · rw [added]
      exact ⟨_, _, rfl, .single (.added absent), fun _ impossible => nomatch impossible⟩
  | change id name description isDeleted =>
    rw [manage]
    rcases changeCategory_cases calm now sound id name description isDeleted with
      refused | ⟨row, held, present, live, same, changed⟩
    · rw [refused]
      exact ⟨_, _, rfl, .refl, fun _ _ => rfl⟩
    · rw [changed]
      exact ⟨_, _, rfl, .single (.changed present live same),
        fun _ impossible => nomatch impossible⟩
  | seed =>
    obtain ⟨count, table, seeded, turns, _⟩ := seedAll_turns calm now sound Category.all
    rw [manage, seed, seeded]
    exact ⟨_, _, rfl, turns, fun _ impossible => nomatch impossible⟩

end

/-! ### Runs -/

/-- The archives that come of one by managing its categories: calls are made one after the other, a
seeding has come to some code, and the numbers to be drawn move on in between. -/
inductive Managed (start : Archive) : Archive → Prop
  | start : Managed start start
  | called {archive : Archive} (managed : Managed start archive) (now : Instant)
    (call : CategoryCall) : Managed start (archive.manage now call).2
  | seeding {archive : Archive} (managed : Managed start archive) (now : Instant) (count : Nat) :
    Managed start (archive.seedAll now (Category.all.take count)).2
  | moved {archive : Archive} (managed : Managed start archive) {numbering : Numbering}
    (onward : archive.categories.numbering.upcoming ≤ numbering.upcoming) :
    Managed start { archive with categories := { archive.categories with numbering } }

namespace Managed

variable {start archive later : Archive}

/-- However categories are managed, their table takes turns, and no outage comes up. -/
theorem turns (managed : Managed start archive) (calm : start.Calm)
    (sound : start.categories.Sound) :
    archive.Calm ∧ start.categories.Turns archive.categories := by
  induction managed with
  | start => exact ⟨calm, .refl⟩
  | called _ now call inductionHypothesis =>
    obtain ⟨still, before⟩ := inductionHypothesis
    obtain ⟨answer, table, made, turns, _⟩ := manage_turns still now (sound.turns before) call
    rw [made]
    exact ⟨⟨still.outages, still.flushes⟩, before.trans turns⟩
  | seeding _ now count inductionHypothesis =>
    obtain ⟨still, before⟩ := inductionHypothesis
    obtain ⟨_, table, made, turns, _⟩ :=
      seedAll_turns still now (sound.turns before) (Category.all.take count)
    rw [made]
    exact ⟨⟨still.outages, still.flushes⟩, before.trans turns⟩
  | moved _ onward inductionHypothesis =>
    obtain ⟨still, before⟩ := inductionHypothesis
    exact ⟨⟨still.outages, still.flushes⟩, before.tail (.moved onward)⟩

theorem sound_of_empty {backend : Backend} (managed : Managed (.empty backend) archive) :
    archive.Calm ∧ archive.categories.Sound := by
  have sound : (Archive.empty backend).categories.Sound := by
    cases backend with
    | memory => exact CategoryTable.sound_empty
    | disk => exact CategoryTable.sound_emptyPersistent
  obtain ⟨calm, turns⟩ := managed.turns (by cases backend <;> exact ⟨rfl, rfl⟩) sound
  exact ⟨calm, sound.turns turns⟩

/-- A seeding succeeds, and from then on every code has one row and seeding does nothing. -/
theorem seeded (calm : archive.Calm) (sound : archive.categories.Sound) (now : Instant) :
    (∃ count, (archive.manage now .seed).1 = .ok (.seeded count)) ∧
      ∀ after, Managed (archive.manage now .seed).2 after →
        (∀ category,
          (after.categories.rows.values.map CategoryRow.category).count category = 1) ∧
        ∀ next, after.manage next .seed = (.ok (.seeded 0), after) := by
  obtain ⟨count, table, seeded, turns, all⟩ := seedAll_turns calm now sound Category.all
  have made : archive.manage now .seed =
      (.ok (.seeded count), { archive with categories := table }) := by
    rw [manage, seed, seeded]
    rfl
  rw [made]
  refine ⟨⟨count, rfl⟩, fun after managed => ?_⟩
  obtain ⟨still, onward⟩ := managed.turns ⟨calm.outages, calm.flushes⟩ (sound.turns turns)
  have present (category : Category) : after.categories.hasCode category = true :=
    (sound.turns turns).hasCode_turns onward (all category (by cases category <;> decide))
  refine ⟨fun category => ?_, fun next => ?_⟩
  · exact List.count_eq_one_of_mem ((sound.turns turns).turns onward).single
      (CategoryTable.hasCode_iff.mp (present category))
  · rw [manage, seed, seedAll_of_present still next fun category _ => present category]
    rfl

/-- From an archive without rows on, at all times while categories are managed: the rows are of
different codes, their ids are different and positive, and every row keeps its id and its code, so
that no id is given twice. A deleted row stays as it is, the only one of its code, which can neither
be added nor seeded again. A call that fails changes nothing. A seeding succeeds, and from then on
every code has exactly one row and another seeding does nothing. -/
theorem keeps_rows_apart {backend : Backend} (managed : Managed (.empty backend) archive)
    (onward : Managed archive later) :
    (archive.categories.rows.values.map CategoryRow.category).Nodup ∧
    (archive.categories.rows.values.map CategoryRow.id).Nodup ∧
    (∀ row ∈ archive.categories.rows.values, 0 < row.id) ∧
    (∀ row ∈ archive.categories.rows.values, ∃ still ∈ later.categories.rows.values,
      still.id = row.id ∧ still.category = row.category ∧ (row.isDeleted = true → still = row)) ∧
    (∀ row ∈ archive.categories.rows.values, row.isDeleted = true →
      (∀ other ∈ later.categories.rows.values, other.category = row.category → other = row) ∧
      ∀ now, later.seedAll now [row.category] = (.ok 0, later) ∧
        ∀ name description, later.addCategory now row.category name description =
          (.error (categoryTaken row.category), later)) ∧
    (∀ now call failure, (archive.manage now call).1 = .error failure →
      (archive.manage now call).2 = archive) ∧
    ∀ now, (∃ count, (archive.manage now .seed).1 = .ok (.seeded count)) ∧
      ∀ after, Managed (archive.manage now .seed).2 after →
        (∀ category,
          (after.categories.rows.values.map CategoryRow.category).count category = 1) ∧
        ∀ next, after.manage next .seed = (.ok (.seeded 0), after) := by
  obtain ⟨calm, sound⟩ := managed.sound_of_empty
  obtain ⟨still, turns⟩ := onward.turns calm sound
  have soundLater := sound.turns turns
  have kept : ∀ row ∈ archive.categories.rows.values, ∃ other ∈ later.categories.rows.values,
      other.id = row.id ∧ other.category = row.category ∧
        (row.isDeleted = true → other = row) := by
    intro row member
    obtain ⟨other, found, same, frozen⟩ := sound.keeps_turns turns _ _ (sound.get?_id member)
    obtain ⟨listed, own⟩ := soundLater.get?_iff.mp found
    exact ⟨other, listed, own, same, frozen⟩
  refine ⟨sound.single, sound.own ▸ sound.distinct, fun row member => ?_, kept,
    fun row member deleted => ?_, fun now call failure failed => ?_, seeded calm sound⟩
  · exact (sound.drawn_of_get? (sound.get?_id member)).1
  · obtain ⟨other, listed, _, _, frozen⟩ := kept row member
    obtain rfl := frozen deleted
    have taken : later.categories.hasCode other.category = true :=
      CategoryTable.hasCode_iff.mpr (List.mem_map_of_mem listed)
    refine ⟨fun another also same => soundLater.eq_of_category listed also same, fun now => ?_⟩
    refine ⟨seedAll_of_present still now (List.forall_mem_singleton.mpr taken),
      fun name description => ?_⟩
    rcases addCategory_cases still now other.category name description with
      ⟨_, refused⟩ | ⟨_, _, absent, _⟩
    · exact refused
    · exact absurd (absent.symm.trans taken) Bool.false_ne_true
  · obtain ⟨answer, table, made, _, unchanged⟩ := manage_turns calm now sound call
    rw [made] at failed
    rw [made, unchanged failure failed]

end Managed

/-- An archive on disk to which a category was added and deleted. -/
def withdrawn : Archive :=
  (((Archive.empty .disk).manage ⟨0, 0⟩ (.add .apiAdmin "Admin" "")).2.manage ⟨1, 0⟩
    (.change 1 none none (some true))).2

/-- Six categories are seeded then, the deleted one is not, nor can it be added again. -/
theorem withdrawn_stays_deleted :
    Managed (.empty .disk) withdrawn ∧
      withdrawn.categories.rows.values =
        [⟨1, .apiAdmin, "Admin", "", true, ⟨0, 0⟩, ⟨1, 0⟩⟩] ∧
      ∃ later, Managed withdrawn later ∧
        withdrawn.manage ⟨2, 0⟩ .seed = (.ok (.seeded 6), later) ∧
        (later.categories.rows.values.map CategoryRow.category).count .apiAdmin = 1 ∧
        later.addCategory ⟨3, 0⟩ .apiAdmin "Admin" "" = (.error (categoryTaken .apiAdmin), later) ∧
        later.manage ⟨3, 0⟩ .seed = (.ok (.seeded 0), later) := by
  have managed : Managed (.empty .disk) withdrawn :=
    .called (.called .start ⟨0, 0⟩ (.add .apiAdmin "Admin" "")) ⟨1, 0⟩
      (.change 1 none none (some true))
  have rows : withdrawn.categories.rows.values =
      [⟨1, .apiAdmin, "Admin", "", true, ⟨0, 0⟩, ⟨1, 0⟩⟩] := rfl
  have onward : Managed withdrawn (withdrawn.manage ⟨2, 0⟩ .seed).2 :=
    .called .start ⟨2, 0⟩ .seed
  obtain ⟨_, _, _, _, deleted, _, seeded⟩ := managed.keeps_rows_apart onward
  obtain ⟨_, refused⟩ := deleted _ (rows ▸ List.mem_singleton_self _) rfl
  obtain ⟨_, after⟩ := seeded ⟨2, 0⟩
  obtain ⟨single, again⟩ := after _ .start
  exact ⟨managed, rows, _, onward, rfl, single .apiAdmin, (refused ⟨3, 0⟩).2 "Admin" "",
    again ⟨3, 0⟩⟩

end Archive

end AccessFeed
