/-
This file says once what a call does to a stream store.

A call that works changes at most one stream, the one it names, and what it
makes of that stream depends on the content of the stream alone; a call that
meets an injected failure changes none. Everything that holds along a run of
calls is derived from this. The file also defines such runs, with the turns they
consist of.
-/

import AccessFeed.Proofs.IdMaps
import AccessFeed.Streams.Store

namespace AccessFeed.Streams

/-! ### Calls -/

/-- A call on a stream store. -/
inductive StoreCall
  | append (now : UInt64) (stream : String) (fields : List (String × String))
  | appendWithId (stream : String) (id : StreamId) (fields : List (String × String))
  | hasStream (stream : String)
  | groupNames (stream : String)
  | createGroup (stream group : String)
  | readGroup (stream group consumer : String) (offset : ReadOffset) (count : Nat)
  | acknowledge (stream group : String) (ids : List StreamId)
  | pending (stream group : String) (count : Nat)
  | range (stream : String) (start stop : StreamId) (count : Nat)
  | delete (stream : String) (ids : List StreamId)
  | cluster
  | inject (error : StoreError)
  | clear
  | setClusterState (state : String)
deriving DecidableEq, Repr

/-- What a call that works answers. -/
inductive StoreReply
  | id (id : StreamId)
  | flag (held : Bool)
  | names (names : List String)
  | records (records : List Record)
  | entries (entries : List PendingEntry)
  | count (count : Nat)
  | state (state : String)
  | done
deriving DecidableEq, Repr

/-- An answer as that of any call. -/
def Answer.as {Value : Type} (reply : Value → StoreReply) (answer : Answer Value) :
    Answer StoreReply :=
  (answer.1.map reply, answer.2)

namespace StoreCall

/-- Makes a call on a store. -/
def perform (store : Store) : StoreCall → Answer StoreReply
  | .append now stream fields => (store.append now stream fields).as .id
  | .appendWithId stream id fields => (store.appendWithId stream id fields).as .id
  | .hasStream stream => (store.hasStream stream).as .flag
  | .groupNames stream => (store.groupNames stream).as .names
  | .createGroup stream group => (store.createGroup stream group).as fun _ => .done
  | .readGroup stream group consumer offset count =>
    (store.readGroup stream group consumer offset count).as .records
  | .acknowledge stream group ids => (store.acknowledge stream group ids).as .count
  | .pending stream group count => (store.pending stream group count).as .entries
  | .range stream start stop count => (store.range stream start stop count).as .records
  | .delete stream ids => (store.delete stream ids).as .count
  | .cluster => store.cluster.as .state
  | .inject error => (.ok .done, store.inject error)
  | .clear => (.ok .done, store.clear)
  | .setClusterState state => (.ok .done, store.setClusterState state)

/-- The stream that a call may change. -/
def target? : StoreCall → Option String
  | .append _ stream _ => some stream
  | .appendWithId stream _ _ => some stream
  | .createGroup stream _ => some stream
  | .readGroup stream _ _ _ _ => some stream
  | .acknowledge stream _ _ => some stream
  | .delete stream _ => some stream
  | _ => none

end StoreCall

/-! ### What a call makes of a stream -/

/-- The new entries a group would be delivered. -/
def Group.fresh (group : Group) (content : Content) (count : Nat) : List (StreamId × Fields) :=
  (content.entries.startingAt group.lastDelivered.successor).take count

/-- The pending entries of a consumer behind an id. -/
def Group.own (group : Group) (consumer : String) (id : StreamId) (count : Nat) :
    List (StreamId × Delivery) :=
  ((group.pending.startingAt id.successor).filter fun entry =>
    entry.2.consumer == consumer).take count

namespace Content

/-- The stream with one of its groups changed, if it has that group. -/
def changeGroup (content : Content) (group : String) (change : Group → Group) : Content :=
  match content.groups.get? group with
  | none => content
  | some held => { content with groups := content.groups.set group (change held) }

/-- The group after a read. -/
def readChange (content : Content) (consumer : String) (offset : ReadOffset) (count : Nat)
    (held : Group) : Group :=
  match offset with
  | .lastConsumed => Store.deliver consumer held (held.fresh content count)
  | .pendingAfter id => Store.redeliver held (held.own consumer id count)

/-- The records that a read of a group delivers. -/
def readRecords (content : Content) (stream consumer : String) (offset : ReadOffset)
    (count : Nat) (held : Group) : List Record :=
  match offset with
  | .lastConsumed => (held.fresh content count).map fun entry => ⟨stream, entry.1, entry.2⟩
  | .pendingAfter id =>
    (held.own consumer id count).map fun entry =>
      ⟨stream, entry.1, (content.entries.get? entry.1).getD .empty⟩

end Content

/-- What a call that works makes of the stream it names. -/
def StoreCall.effect (held : Option Content) : StoreCall → Option Content
  | .append now _ fields =>
    let content := held.getD .empty
    some (content.add (content.nextId now) (.ofList fields))
  | .appendWithId _ id fields =>
    let content := held.getD .empty
    some (if id ≤ content.lastId then content else content.add id (.ofList fields))
  | .createGroup _ group =>
    held.map fun content =>
      if content.groups.contains group then content
      else { content with groups := content.groups.set group ⟨content.lastId, .empty⟩ }
  | .readGroup _ group consumer offset count =>
    held.map fun content =>
      content.changeGroup group (content.readChange consumer offset count)
  | .acknowledge _ group ids =>
    held.map fun content =>
      content.changeGroup group fun held =>
        { held with pending := (held.pending.eraseAll ids).2 }
  | .delete _ ids =>
    held.map fun content => { content with entries := (content.entries.eraseAll ids).2 }
  | _ => held

namespace Store

theorem content?_setContent (store : Store) (stream other : String) (content : Content) :
    (store.setContent stream content).content? other =
      if other = stream then some content else store.content? other :=
  Table.get?_set store.streams stream other content

theorem content?_setGroup {store : Store} {stream : String} {content : Content}
    (held : store.content? stream = some content) (group other : String) (value : Group) :
    (store.setGroup stream group value).content? other =
      if other = stream then some { content with groups := content.groups.set group value }
      else store.content? other := by
  rw [setGroup, held]
  exact content?_setContent _ _ _ _

theorem group?_eq {store : Store} {stream : String} {content : Content}
    (held : store.content? stream = some content) (group : String) :
    store.group? stream group = content.groups.get? group := by
  rw [group?, held]
  rfl

theorem group?_eq_none {store : Store} {stream : String} (absent : store.content? stream = none)
    (group : String) : store.group? stream group = none := by
  rw [group?, absent]
  rfl

theorem guarded_of_working {Value : Type} {store : Store} (working : store.failure = none)
    (operation : Answer Value) : store.guarded operation = operation := by
  rw [guarded, working]

theorem guarded_of_failing {Value : Type} {store : Store} {error : StoreError}
    (failing : store.failure = some error) (operation : Answer Value) :
    store.guarded operation = (.error error, store) := by
  rw [guarded, failing]

theorem failure_guarded {Value : Type} (store : Store) {operation : Answer Value}
    (kept : operation.2.failure = store.failure) :
    (store.guarded operation).2.failure = store.failure := by
  cases failing : store.failure with
  | some error =>
    rw [guarded_of_failing failing]
    exact failing
  | none =>
    rw [guarded_of_working failing, kept, failing]

theorem failure_setGroup (store : Store) (stream group : String) (value : Group) :
    (store.setGroup stream group value).failure = store.failure := by
  rw [setGroup]
  cases store.content? stream <;> rfl

/-! ### What single calls come to -/

theorem appendWithId_of_le {store : Store} (working : store.failure = none) {stream : String}
    {id : StreamId} (behind : id ≤ ((store.content? stream).getD .empty).lastId)
    (fields : List (String × String)) :
    store.appendWithId stream id fields =
      (.error (notBehind ((store.content? stream).getD .empty).lastId),
        store.setContent stream ((store.content? stream).getD .empty)) := by
  rw [appendWithId, guarded_of_working working]
  exact if_pos behind

theorem appendWithId_of_lt {store : Store} (working : store.failure = none) {stream : String}
    {id : StreamId} (ahead : ¬ id ≤ ((store.content? stream).getD .empty).lastId)
    (fields : List (String × String)) :
    store.appendWithId stream id fields =
      (.ok id, store.setContent stream
        (((store.content? stream).getD .empty).add id (.ofList fields))) := by
  rw [appendWithId, guarded_of_working working]
  exact if_neg ahead

theorem readGroup_of_group {store : Store} (working : store.failure = none) {stream : String}
    {content : Content} (present : store.content? stream = some content) {group : String}
    {held : Group} (member : content.groups.get? group = some held) (consumer : String)
    (offset : ReadOffset) (count : Nat) :
    store.readGroup stream group consumer offset count =
      (.ok (content.readRecords stream consumer offset count held),
        store.setGroup stream group (content.readChange consumer offset count held)) := by
  rw [readGroup, guarded_of_working working, present]
  simp only [member]
  cases offset <;> rfl

theorem readGroup_of_noGroup {store : Store} (working : store.failure = none)
    {stream group : String} (absent : store.group? stream group = none) (consumer : String)
    (offset : ReadOffset) (count : Nat) :
    store.readGroup stream group consumer offset count =
      (.error (noGroup stream group), store) := by
  rw [readGroup, guarded_of_working working]
  cases present : store.content? stream with
  | none => rfl
  | some content =>
    rw [group?_eq present] at absent
    simp only [absent]

theorem acknowledge_of_group {store : Store} (working : store.failure = none)
    {stream group : String} {held : Group} (member : store.group? stream group = some held)
    (ids : List StreamId) :
    store.acknowledge stream group ids =
      (.ok (held.pending.eraseAll ids).1,
        store.setGroup stream group { held with pending := (held.pending.eraseAll ids).2 }) := by
  rw [acknowledge, guarded_of_working working, member]

theorem acknowledge_of_noGroup {store : Store} (working : store.failure = none)
    {stream group : String} (absent : store.group? stream group = none) (ids : List StreamId) :
    store.acknowledge stream group ids = (.ok 0, store) := by
  rw [acknowledge, guarded_of_working working, absent]

end Store

/-! ### One lemma for all calls -/

namespace StoreCall

open Store

theorem if_target (store : Store) (target stream : String)
    (effect : Option Content → Option Content) :
    (if stream = target then effect (store.content? target) else store.content? stream) =
      if some target = some stream then effect (store.content? stream)
      else store.content? stream := by
  by_cases same : stream = target
  · rw [if_pos same, if_pos (congrArg some same.symm), same]
  · rw [if_neg same, if_neg fun reverse => same (Option.some.inj reverse).symm]

theorem changeGroup_of_none {content : Content} {group : String}
    (absent : content.groups.get? group = none) (change : Group → Group) :
    content.changeGroup group change = content := by
  rw [Content.changeGroup, absent]

theorem changeGroup_of_some {content : Content} {group : String} {held : Group}
    (member : content.groups.get? group = some held) (change : Group → Group) :
    content.changeGroup group change =
      { content with groups := content.groups.set group (change held) } := by
  rw [Content.changeGroup, member]

/-- A change of a group as a change of its stream. -/
theorem content?_changeGroup (store : Store) (stream group other : String)
    (change : Content → Group → Group) (after : Store)
    (absent : store.group? stream group = none → after = store)
    (changed : ∀ content held, store.content? stream = some content →
      content.groups.get? group = some held →
      after = store.setGroup stream group (change content held)) :
    after.content? other =
      if other = stream then
        (store.content? stream).map fun content => content.changeGroup group (change content)
      else store.content? other := by
  cases present : store.content? stream with
  | none =>
    rw [absent (group?_eq_none present group)]
    split
    · rename_i same
      rw [same, present]
      rfl
    · rfl
  | some content =>
    cases member : content.groups.get? group with
    | none =>
      rw [absent ((group?_eq present group).trans member), Option.map_some,
        changeGroup_of_none member]
      split
      · rename_i same
        rw [same, present]
      · rfl
    | some held =>
      rw [changed content held present member, content?_setGroup present, Option.map_some,
        changeGroup_of_some member]

/-- A call that changes nothing where its stream is missing. -/
theorem content?_of_missing {store : Store} {target : String}
    (missing : store.content? target = none) (stream : String) :
    store.content? stream = if stream = target then none else store.content? stream := by
  split
  · rename_i same
    rw [same, missing]
  · rfl

/-- A call that leaves its stream as it was. -/
theorem content?_of_unchanged {store : Store} {target : String} {content : Content}
    (present : store.content? target = some content) (stream : String) :
    store.content? stream = if stream = target then some content else store.content? stream := by
  split
  · rename_i same
    rw [same, present]
  · rfl

theorem content?_append {store : Store} (working : store.failure = none) (now : UInt64)
    (target stream : String) (fields : List (String × String)) :
    (store.append now target fields).2.content? stream =
      if stream = target then (append now target fields).effect (store.content? target)
      else store.content? stream := by
  rw [Store.append, guarded_of_working working]
  exact content?_setContent _ _ _ _

theorem content?_appendWithId {store : Store} (working : store.failure = none)
    (target stream : String) (id : StreamId) (fields : List (String × String)) :
    (store.appendWithId target id fields).2.content? stream =
      if stream = target then (appendWithId target id fields).effect (store.content? target)
      else store.content? stream := by
  by_cases behind : id ≤ ((store.content? target).getD .empty).lastId
  · rw [appendWithId_of_le working behind, content?_setContent]
    rw [show (appendWithId target id fields).effect (store.content? target) = _ from
      congrArg some (if_pos behind)]
  · rw [appendWithId_of_lt working behind, content?_setContent]
    rw [show (appendWithId target id fields).effect (store.content? target) = _ from
      congrArg some (if_neg behind)]

theorem content?_createGroup {store : Store} (working : store.failure = none)
    (target group stream : String) :
    (store.createGroup target group).2.content? stream =
      if stream = target then (createGroup target group).effect (store.content? target)
      else store.content? stream := by
  rw [Store.createGroup, guarded_of_working working]
  cases present : store.content? target with
  | none => exact content?_of_missing present stream
  | some content =>
    simp only [effect, Option.map_some]
    by_cases taken : content.groups.contains group = true
    · rw [if_pos taken, if_pos taken]
      exact content?_of_unchanged present stream
    · rw [if_neg taken, if_neg taken]
      exact content?_setGroup present _ _ _

theorem content?_readGroup {store : Store} (working : store.failure = none)
    (target group consumer stream : String) (offset : ReadOffset) (count : Nat) :
    (store.readGroup target group consumer offset count).2.content? stream =
      if stream = target then
        (readGroup target group consumer offset count).effect (store.content? target)
      else store.content? stream := by
  refine content?_changeGroup store target group stream
    (fun content => content.readChange consumer offset count) _ (fun absent => ?_)
    fun content held present member => ?_
  · rw [readGroup_of_noGroup working absent]
  · rw [readGroup_of_group working present member]

theorem content?_acknowledge {store : Store} (working : store.failure = none)
    (target group stream : String) (ids : List StreamId) :
    (store.acknowledge target group ids).2.content? stream =
      if stream = target then (acknowledge target group ids).effect (store.content? target)
      else store.content? stream := by
  refine content?_changeGroup store target group stream
    (fun _ held => { held with pending := (held.pending.eraseAll ids).2 }) _
    (fun absent => ?_) fun content held present member => ?_
  · rw [acknowledge_of_noGroup working absent]
  · rw [acknowledge_of_group working ((group?_eq present group).trans member)]

theorem content?_delete {store : Store} (working : store.failure = none)
    (target stream : String) (ids : List StreamId) :
    (store.delete target ids).2.content? stream =
      if stream = target then (delete target ids).effect (store.content? target)
      else store.content? stream := by
  rw [Store.delete, guarded_of_working working]
  cases present : store.content? target with
  | none => exact content?_of_missing present stream
  | some content => exact content?_setContent _ _ _ _

/-- A working call changes the stream it names as told by its effect, and no other stream. -/
theorem content?_perform_working (call : StoreCall) {store : Store}
    (working : store.failure = none) (stream : String) :
    (call.perform store).2.content? stream =
      if call.target? = some stream then call.effect (store.content? stream)
      else store.content? stream := by
  cases call with
  | append now target fields =>
    exact (content?_append working now target stream fields).trans
      (if_target store target stream fun held => (append now target fields).effect held)
  | appendWithId target id fields =>
    exact (content?_appendWithId working target stream id fields).trans
      (if_target store target stream fun held => (appendWithId target id fields).effect held)
  | createGroup target group =>
    exact (content?_createGroup working target group stream).trans
      (if_target store target stream fun held => (createGroup target group).effect held)
  | readGroup target group consumer offset count =>
    exact (content?_readGroup working target group consumer stream offset count).trans
      (if_target store target stream fun held =>
        (readGroup target group consumer offset count).effect held)
  | acknowledge target group ids =>
    exact (content?_acknowledge working target group stream ids).trans
      (if_target store target stream fun held => (acknowledge target group ids).effect held)
  | delete target ids =>
    exact (content?_delete working target stream ids).trans
      (if_target store target stream fun held => (delete target ids).effect held)
  | range target start stop count =>
    show (store.range target start stop count).2.content? stream = _
    rw [Store.range, guarded_of_working working]
    cases store.content? target <;> rfl
  | groupNames target =>
    show (store.groupNames target).2.content? stream = _
    rw [Store.groupNames, guarded_of_working working]
    cases store.content? target <;> rfl
  | pending target group count =>
    show (store.pending target group count).2.content? stream = _
    rw [Store.pending, guarded_of_working working]
    cases store.group? target group <;> rfl
  | hasStream target =>
    show (store.hasStream target).2.content? stream = _
    rw [Store.hasStream, guarded_of_working working]
    rfl
  | cluster =>
    show store.cluster.2.content? stream = _
    rw [Store.cluster, guarded_of_working working]
    rfl
  | inject error => rfl
  | clear => rfl
  | setClusterState state => rfl

/-- A call on a store with an injected failure changes no stream. -/
theorem content?_perform_failing (call : StoreCall) {store : Store} {error : StoreError}
    (failing : store.failure = some error) (stream : String) :
    (call.perform store).2.content? stream = store.content? stream := by
  cases call with
  | inject | clear | setClusterState => rfl
  | append | appendWithId | hasStream | groupNames | createGroup | readGroup | acknowledge
  | pending | range | delete | cluster =>
    exact congrArg (fun answer : Answer _ => answer.2.content? stream)
      (guarded_of_failing failing _)

/-- What a call does to each stream: nothing, or what its effect tells. -/
theorem content?_perform (call : StoreCall) (store : Store) (stream : String) :
    (call.perform store).2.content? stream = store.content? stream ∨
      store.failure = none ∧ call.target? = some stream ∧
        (call.perform store).2.content? stream = call.effect (store.content? stream) := by
  cases failing : store.failure with
  | some error => exact Or.inl (content?_perform_failing call failing stream)
  | none =>
    have told := content?_perform_working call failing stream
    by_cases named : call.target? = some stream
    · rw [if_pos named] at told
      exact Or.inr ⟨rfl, named, told⟩
    · rw [if_neg named] at told
      exact Or.inl told

/-- A call that neither injects a failure nor clears one leaves a store failing or working. -/
theorem failure_perform {call : StoreCall} (store : Store)
    (injects : ∀ error, call ≠ .inject error) (clears : call ≠ .clear) :
    (call.perform store).2.failure = store.failure := by
  cases call with
  | inject error => exact absurd rfl (injects error)
  | clear => exact absurd rfl clears
  | setClusterState state => rfl
  | append | hasStream | cluster => exact store.failure_guarded rfl
  | appendWithId stream id fields =>
    show (store.appendWithId stream id fields).2.failure = store.failure
    cases working : store.failure with
    | some error =>
      rw [Store.appendWithId, Store.guarded_of_failing working]
      exact working
    | none =>
      by_cases behind : id ≤ ((store.content? stream).getD .empty).lastId
      · rw [Store.appendWithId_of_le working behind]
        exact working
      · rw [Store.appendWithId_of_lt working behind]
        exact working
  | groupNames stream | range stream | delete stream =>
    refine store.failure_guarded ?_
    cases store.content? stream <;> rfl
  | createGroup stream group =>
    refine store.failure_guarded ?_
    cases store.content? stream with
    | none => rfl
    | some content =>
      dsimp only
      split
      · rfl
      · exact store.failure_setGroup ..
  | readGroup stream group consumer offset count =>
    refine store.failure_guarded ?_
    cases store.content? stream with
    | none => rfl
    | some content =>
      dsimp only
      cases content.groups.get? group with
      | none => rfl
      | some held => cases offset <;> exact store.failure_setGroup ..
  | acknowledge stream group ids =>
    refine store.failure_guarded ?_
    cases store.group? stream group with
    | none => rfl
    | some held => exact store.failure_setGroup ..
  | pending stream group count =>
    refine store.failure_guarded ?_
    cases store.group? stream group <;> rfl

end StoreCall

/-! ### Runs of calls -/

/-- A turn of a run: the store a call is made on, the call, and its answer. -/
structure StoreTurn where
  before : Store
  call : StoreCall
  answer : Except StoreError StoreReply

namespace Store

/-- The store after some calls. -/
def after (store : Store) (calls : List StoreCall) : Store :=
  calls.foldl (fun store call => (call.perform store).2) store

/-- The turns that some calls consist of. -/
def turns (store : Store) : List StoreCall → List StoreTurn
  | [] => []
  | call :: rest => ⟨store, call, (call.perform store).1⟩ :: (call.perform store).2.turns rest

theorem after_append (store : Store) (calls more : List StoreCall) :
    store.after (calls ++ more) = (store.after calls).after more :=
  List.foldl_append

end Store

end AccessFeed.Streams
