/-
This file tells when a group is created, and from where on it delivers.

Streams and groups never vanish, so that a group is created once or not at all,
and a group that is there is left alone by every attempt to create it again. It
delivers from the last id of its stream at that moment on. What is appended later
comes behind this id, with the exception that all ids have: behind the greatest
one they start over at the first id of the last millisecond, and a group created
in that millisecond may be ahead of them. What comes behind is delivered, or will
be by a read that asks for enough.
-/

import AccessFeed.Proofs.Bookkeeping

namespace AccessFeed.Streams

/-! ### What never vanishes -/

theorem Content.isSome_changeGroup (content : Content) (changed group : String)
    (change : Group → Group) :
    ((content.changeGroup changed change).groups.get? group).isSome =
      (content.groups.get? group).isSome := by
  by_cases same : changed = group
  · subst same
    cases member : content.groups.get? changed with
    | none => rw [StoreCall.changeGroup_of_none member, member]
    | some held =>
      rw [StoreCall.changeGroup_of_some member, Table.get?_set_self]
      rfl
  · rw [StoreCall.get?_changeGroup_of_ne same]

namespace StoreCall

/-- A stream that is there stays. -/
theorem isSome_content?_perform (call : StoreCall) {store : Store} {stream : String}
    (present : (store.content? stream).isSome) :
    ((call.perform store).2.content? stream).isSome := by
  rcases call.content?_perform store stream with same | ⟨_, _, told⟩
  · rwa [same]
  · obtain ⟨content, held⟩ := Option.isSome_iff_exists.mp present
    rw [told, held]
    cases call <;> rfl

end StoreCall

/-! ### Creating a group -/

namespace Store

variable {store : Store} {stream group : String}

/-- A group that is there is not created again. -/
theorem createGroup_of_group (working : store.failure = none) {held : Group}
    (member : store.group? stream group = some held) :
    store.createGroup stream group =
      (.error (.groupExists
        ("BUSYGROUP Consumer Group name '" ++ group ++ "' already exists")), store) := by
  obtain ⟨content, present, own⟩ := Option.bind_eq_some_iff.mp member
  have taken : content.groups.contains group = true := by
    rw [Table.contains, own]
    rfl
  rw [createGroup, guarded_of_working working, present]
  dsimp only
  rw [if_pos taken]

/-- What the creation of a group that is not there comes to. -/
theorem createGroup_of_noGroup (working : store.failure = none) {content : Content}
    (present : store.content? stream = some content)
    (absent : store.group? stream group = none) :
    store.createGroup stream group =
      (.ok (), store.setGroup stream group ⟨content.lastId, .empty⟩) := by
  have untaken : ¬ content.groups.contains group = true := by
    rw [Table.contains, ← group?_eq present, absent]
    simp
  rw [createGroup, guarded_of_working working, present]
  dsimp only
  rw [if_neg untaken]

theorem createGroup_of_missing (working : store.failure = none)
    (missing : store.content? stream = none) (group : String) :
    store.createGroup stream group =
      (.error (.commandExecution "ERR The XGROUP subcommand requires the key to exist"),
        store) := by
  rw [createGroup, guarded_of_working working, missing]

theorem group?_setGroup {content : Content} (present : store.content? stream = some content)
    (group : String) (value : Group) :
    (store.setGroup stream group value).group? stream group = some value := by
  have changed := content?_setGroup present group stream value
  rw [if_pos rfl] at changed
  rw [group?_eq changed]
  exact Table.get?_set_self _ _ _

/-- A group that was to be created is there. -/
theorem isSome_group?_createGroup (working : store.failure = none)
    (present : (store.content? stream).isSome) (group : String) :
    ((store.createGroup stream group).2.group? stream group).isSome := by
  obtain ⟨content, held⟩ := Option.isSome_iff_exists.mp present
  cases member : store.group? stream group with
  | some value =>
    rw [createGroup_of_group working member, member]
    rfl
  | none =>
    rw [createGroup_of_noGroup working held member, group?_setGroup held]
    rfl

end Store

theorem StoreTurn.founded?_of_not_concerns {stream group : String} {turn : StoreTurn}
    (other : ¬ turn.call.Concerns stream group) : turn.founded? stream group = none := by
  rw [founded?]
  split
  · rename_i target asked reply called answered
    rw [called] at other
    exact if_neg other
  · rfl

/-- Whether a turn created a group or not: it did if the group was not there, and it then delivers
from the last id of its stream on. -/
inductive GroupTurn (stream group : String) (store : Store) (call : StoreCall) : Prop
  | kept (unfounded : (store.turn call).founded? stream group = none)
    (same : ((call.perform store).2.group? stream group).isSome =
      (store.group? stream group).isSome)
  | created {content : Content} (present : store.content? stream = some content)
    (absent : store.group? stream group = none)
    (founded : (store.turn call).founded? stream group = some content.lastId)
    (made : (call.perform store).2.group? stream group = some ⟨content.lastId, .empty⟩)

theorem answer_createGroup (store : Store) (stream group : String) :
    (store.turn (.createGroup stream group)).answer =
      (store.createGroup stream group).1.map fun _ => StoreReply.done :=
  rfl

/-- A group whose creation is refused is there or missing as it was. -/
theorem GroupTurn.of_refused {store : Store} {stream group : String} {error : StoreError}
    (refused : store.createGroup stream group = (.error error, store)) :
    GroupTurn stream group store (.createGroup stream group) := by
  have failed : (store.turn (.createGroup stream group)).answer = .error error := by
    rw [answer_createGroup, refused]
    rfl
  exact .kept (StoreTurn.founded?_of_error stream group failed)
    (congrArg (fun answer => (answer.2.group? stream group).isSome) refused)

/-- The creation of a group is refused, or the group was not there and is created. -/
theorem groupTurn_createGroup (store : Store) (stream group : String) :
    GroupTurn stream group store (.createGroup stream group) := by
  cases working : store.failure with
  | some error =>
    exact .of_refused (Store.guarded_of_failing working _)
  | none =>
    cases member : store.group? stream group with
    | some held => exact .of_refused (Store.createGroup_of_group working member)
    | none =>
      cases present : store.content? stream with
      | none => exact .of_refused (Store.createGroup_of_missing working present group)
      | some content =>
        have answer := Store.createGroup_of_noGroup working present member
        refine .created present member ?_ ?_
        · rw [StoreTurn.founded?, answer_createGroup, answer]
          simp [Store.turn, present, Except.map]
        · show (store.createGroup stream group).2.group? stream group = _
          rw [answer]
          exact Store.group?_setGroup present group _

/-- Every call creates a group or leaves it there or missing as it was. -/
theorem StoreCall.groupTurn (call : StoreCall) (store : Store) (stream group : String) :
    GroupTurn stream group store call := by
  by_cases concerned : call.Concerns stream group
  · have changed (named : call.target? = some stream)
        (unfounded : (store.turn call).founded? stream group = none)
        (same : ∀ content, ((call.effect (some content)).bind fun left =>
            left.groups.get? group).isSome = (content.groups.get? group).isSome)
        (missing : call.effect none = none) : GroupTurn stream group store call := by
      refine .kept unfounded ?_
      show (((call.perform store).2.content? stream).bind _).isSome =
        ((store.content? stream).bind _).isSome
      rcases call.content?_perform store stream with unchanged | ⟨_, _, told⟩
      · rw [unchanged]
      · rw [told]
        cases store.content? stream with
        | none => rw [missing]
        | some content => exact same content
    cases call with
    | createGroup target asked =>
      obtain ⟨rfl, rfl⟩ := concerned
      exact groupTurn_createGroup store target asked
    | readGroup target asked consumer offset count =>
      exact changed (congrArg some concerned.1) rfl
        (fun content => content.isSome_changeGroup asked group _) rfl
    | acknowledge target asked ids =>
      exact changed (congrArg some concerned.1) rfl
        (fun content => content.isSome_changeGroup asked group _) rfl
    | append | appendWithId | hasStream | groupNames | pending | range | delete | cluster | inject
    | clear | setClusterState => exact concerned.elim
  · have unfounded : (store.turn call).founded? stream group = none :=
      StoreTurn.founded?_of_not_concerns concerned
    exact .kept unfounded (congrArg Option.isSome (call.group?_perform store concerned))

/-- A group that is there stays. -/
theorem StoreCall.isSome_group?_perform (call : StoreCall) {store : Store} {stream group : String}
    (present : (store.group? stream group).isSome) :
    ((call.perform store).2.group? stream group).isSome := by
  cases call.groupTurn store stream group with
  | kept unfounded same => rwa [same]
  | created _ absent => exact absurd present (by simp [absent])

/-! ### Created once -/

/-- How many turns created a group. -/
def creations (stream group : String) (turns : List StoreTurn) : Nat :=
  turns.countP fun turn => (turn.founded? stream group).isSome

/-- From the empty store on, a group was created once if it is there, and not at all if it is
not. -/
theorem creations_eq (calls : List StoreCall) (stream group : String) :
    creations stream group (Store.empty.turns calls) =
      if ((Store.empty.after calls).group? stream group).isSome then 1 else 0 := by
  induction calls using List.reverseRecOn with
  | nil => rfl
  | append_singleton before call inductionHypothesis =>
    rw [Store.turns_concat, Store.after_concat, creations, List.countP_append,
      List.countP_singleton]
    rw [creations] at inductionHypothesis
    rw [inductionHypothesis]
    cases call.groupTurn (Store.empty.after before) stream group with
    | kept unfounded same => rw [unfounded, same, Option.isSome_none, if_neg Bool.false_ne_true,
        Nat.add_zero]
    | created present absent founded made =>
      rw [absent, founded, made]
      rfl

theorem founded?_concat (stream group : String) (turns : List StoreTurn) (last : StoreTurn) :
    founded? stream group (turns ++ [last]) =
      (founded? stream group turns).or (last.founded? stream group) := by
  rw [founded?, List.findSome?_append, List.findSome?_singleton]
  rfl

/-- A group that is there was created. -/
theorem founded_of_group {calls : List StoreCall} {stream group : String}
    (member : ((Store.empty.after calls).group? stream group).isSome) :
    ∃ start, founded? stream group (Store.empty.turns calls) = some start := by
  rw [← Option.isSome_iff_exists]
  have created := creations_eq calls stream group
  rw [if_pos member] at created
  obtain ⟨turn, listed, found⟩ :=
    List.countP_pos_iff.mp (show 0 < creations stream group _ from created ▸ Nat.one_pos)
  exact List.findSome?_isSome_iff.mpr ⟨turn, listed, found⟩

/-! ### From where on a group delivers -/

/-- A group delivers from an id on that was given out in its stream, or from the least one on. -/
theorem founded_among {calls : List StoreCall} {stream group : String} {start : StreamId}
    (founded : founded? stream group (Store.empty.turns calls) = some start) :
    start = .least ∨ start ∈ assigned stream (Store.empty.turns calls) := by
  induction calls using List.reverseRecOn with
  | nil => cases founded
  | append_singleton before call inductionHypothesis =>
    rw [assigned_concat]
    rw [Store.turns_concat, founded?_concat] at founded
    cases earlier : founded? stream group (Store.empty.turns before) with
    | some other =>
      rw [earlier, Option.some_or] at founded
      obtain rfl := Option.some.inj founded
      exact (inductionHypothesis earlier).imp_right (List.mem_append_left _)
    | none =>
      rw [earlier, Option.none_or] at founded
      cases call.groupTurn (Store.empty.after before) stream group with
      | kept unfounded => exact absurd (unfounded.symm.trans founded) (by simp)
      | @created content present _ created =>
        obtain rfl := Option.some.inj (created.symm.trans founded)
        have last := (Issued.reached before stream).last
        rw [present, Option.getD_some] at last
        cases ended : (assigned stream (Store.empty.turns before)).getLast? with
        | none =>
          rw [ended] at last
          exact Or.inl last
        | some id =>
          rw [ended, Option.getD_some] at last
          exact Or.inr (List.mem_append_left _ (last ▸ List.mem_of_getLast? ended))

/-- Behind an id of the last millisecond come only ids of that millisecond. -/
theorem Follows.millis {first second : StreamId} (follows : Follows first second)
    (late : first.millis = StreamId.greatestPart) : second.millis = StreamId.greatestPart := by
  rcases follows with behind | ⟨_, rfl⟩
  · have firstBound := first.seq.toNat_lt
    have secondBound := second.seq.toNat_lt
    have millisBound := second.millis.toNat_lt
    have last : first.millis.toNat = 2 ^ 64 - 1 := late ▸ StreamId.toNat_greatestPart
    have less : first.millis.toNat * 2 ^ 64 + first.seq.toNat <
      second.millis.toNat * 2 ^ 64 + second.seq.toNat := behind
    refine UInt64.toNat_inj.mp (Eq.trans ?_ StreamId.toNat_greatestPart.symm)
    omega
  · rfl

/-- Behind the greatest id come only ids of the last millisecond. -/
theorem millis_of_exhausted {calls : List StoreCall} {stream : String}
    (exhausted : Exhausted stream calls) :
    (((Store.empty.after calls).content? stream).getD .empty).lastId.millis =
      StreamId.greatestPart := by
  have issued := Issued.reached calls stream
  rw [issued.last]
  rw [Exhausted] at exhausted
  have chain := issued.chain
  generalize assigned stream (Store.empty.turns calls) = ids at exhausted chain ⊢
  induction ids using List.reverseRecOn with
  | nil => cases exhausted
  | append_singleton earlier last inductionHypothesis =>
    rw [List.getLast?_concat, Option.getD_some]
    obtain ⟨before, _, linked⟩ := List.isChain_append.mp chain
    rcases List.mem_append.mp exhausted with among | final
    · have late := inductionHypothesis among before
      cases ended : earlier.getLast? with
      | none =>
        rw [List.getLast?_eq_none_iff.mp ended] at among
        cases among
      | some id =>
        rw [ended, Option.getD_some] at late
        exact (linked id ended last (by simp)).millis late
    · rw [← List.mem_singleton.mp final]
      rfl

/-- What is appended after a group was created comes behind the id from which on it delivers, unless
the greatest id was given out before and the group was created in the last millisecond. -/
theorem assigned_above_founded {calls : List StoreCall} {stream group : String} {start : StreamId}
    (founded : founded? stream group (Store.empty.turns calls) = some start) {call : StoreCall}
    {id : StreamId} (given : id ∈ ((Store.empty.after calls).turn call).assigned stream) :
    start < id ∨ Exhausted stream calls ∧ start.millis = StreamId.greatestPart := by
  have follows := StoreCall.follows_given (StoreCall.given_of_assigned given).2.1
  by_cases exhausted : Exhausted stream calls
  · by_cases late : start.millis = StreamId.greatestPart
    · exact Or.inr ⟨exhausted, late⟩
    · have last := follows.millis (millis_of_exhausted exhausted)
      have startBound := start.seq.toNat_lt
      have millisBound := start.millis.toNat_lt
      have early : start.millis.toNat ≠ 2 ^ 64 - 1 := fun same =>
        late (UInt64.toNat_inj.mp (same.trans StreamId.toNat_greatestPart.symm))
      have lastMillis : id.millis.toNat = 2 ^ 64 - 1 := last ▸ StreamId.toNat_greatestPart
      refine Or.inl ?_
      show start.millis.toNat * 2 ^ 64 + start.seq.toNat < id.millis.toNat * 2 ^ 64 + id.seq.toNat
      omega
  · refine Or.inl ?_
    rcases founded_among founded with rfl | among
    · rcases follows with behind | ⟨greatest, _⟩
      · exact StreamId.lt_of_le_of_lt (Nat.zero_le _) behind
      · have last := (Issued.reached calls stream).last
        rw [greatest] at last
        cases ended : (assigned stream (Store.empty.turns calls)).getLast? with
        | none =>
          rw [ended] at last
          cases last
        | some other =>
          rw [ended, Option.getD_some] at last
          have among := List.mem_of_getLast? ended
          rw [← last] at among
          exact absurd among exhausted
    · exact lt_of_assigned exhausted given start among

/-- What a read of new entries delivers to a group that is there. -/
theorem Store.delivered_readGroup {store : Store} {stream group : String}
    (working : store.failure = none) {content : Content}
    (present : store.content? stream = some content) {held : Group}
    (member : content.groups.get? group = some held) (consumer : String) (count : Nat) :
    (store.turn (.readGroup stream group consumer .lastConsumed count)).delivered stream group =
      (held.fresh content count).map Prod.fst := by
  have answered : (store.turn (.readGroup stream group consumer .lastConsumed count)).answer =
      .ok (.records (content.readRecords stream consumer .lastConsumed count held)) := by
    show ((store.readGroup stream group consumer .lastConsumed count).as StoreReply.records).1 = _
    rw [readGroup_of_group working present member]
    rfl
  rw [StoreTurn.delivered, answered]
  simp [turn, Content.readRecords, Function.comp_def]

/-- An entry behind the id from which on a group delivers was delivered, or a read that asks for
enough delivers it next. -/
theorem delivered_or_next {calls : List StoreCall}
    (below : ∀ turn ∈ Store.empty.turns calls, turn.answer ≠ .ok (.id .greatest))
    (working : (Store.empty.after calls).failure = none) {stream group : String}
    {start : StreamId} (founded : founded? stream group (Store.empty.turns calls) = some start)
    {id : StreamId} {fields : Fields}
    (present : (Store.empty.after calls).fieldsAt? stream id = some fields) (ahead : start < id) :
    id ∈ delivered stream group (Store.empty.turns calls) ∨
      ∀ consumer count, (Store.empty.after calls).size stream ≤ count →
        id ∈ ((Store.empty.after calls).turn
          (.readGroup stream group consumer .lastConsumed count)).delivered stream group := by
  have begun : Followed group (Store.empty.content? stream) none [] :=
    Followed.before fun content present => absurd present (by simp [Store.empty, Store.content?])
  have followed := begun.run Store.sound_empty calls below
  have sound := Store.sound_empty.after calls below
  rw [Option.none_or, List.nil_append, founded] at followed
  generalize delivered stream group (Store.empty.turns calls) = given at followed ⊢
  cases followed with
  | @since content held _ _ stored member covers =>
    have contentSound := sound stream content stored
    have listed : (id, fields) ∈ content.entries.entries := by
      rw [Store.fieldsAt?, stored] at present
      exact IdMap.mem_of_get? present
    by_cases reached : id ≤ held.lastDelivered
    · exact Or.inl (covers.complete id (List.mem_map.mpr ⟨_, listed, rfl⟩) ahead reached)
    · refine Or.inr fun consumer count enough => ?_
      have unexhausted := Content.lastDelivered_ne_greatest contentSound
        (contentSound.groups group held member)
      have behind : (id, fields) ∈ content.entries.startingAt held.lastDelivered.successor :=
        IdMap.mem_startingAt.mpr ⟨listed, (StreamId.successor_le_iff unexhausted).mpr
          (StreamId.not_le.mp reached)⟩
      have all : (content.entries.startingAt held.lastDelivered.successor).length ≤ count := by
        refine Nat.le_trans (List.length_filter_le _ _) ?_
        rw [Store.size, stored] at enough
        exact enough
      rw [Store.delivered_readGroup working stored member, Group.fresh, List.take_of_length_le all]
      exact List.mem_map.mpr ⟨_, behind, rfl⟩

end AccessFeed.Streams
