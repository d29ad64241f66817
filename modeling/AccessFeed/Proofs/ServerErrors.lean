/-
This file tells how the error lines of the server are classified.

A line is its code, and behind the first space the rest. Whatever the code, a
line that quotes the code of an existing group anywhere is taken to say that the
group exists, which is no critical error and a success for the ensuring of a
group. Without such a quotation the code alone decides. The wordings that stand
around the code and the rest quote nothing, so that it is known of every line
how it is classified, and what a listener and the ensuring of a group make of it.
-/

import AccessFeed.Listening.Listener
import AccessFeed.Pipeline.Groups
import AccessFeed.Remote.Call
import Mathlib.Data.List.Infix

namespace AccessFeed

open Streams (ReadOffset Service StoreError StoreMethod)

namespace Remote

/-! ### Words in texts -/

theorem mentions_iff {word text : List Char} : mentions word text = true ↔ word <:+: text := by
  induction text with
  | nil => simp [mentions]
  | cons c rest inductionHypothesis =>
    rw [mentions, Bool.or_eq_true, inductionHypothesis, List.isPrefixOf_iff_prefix,
      List.infix_cons_iff]

/-- A word reaches across no character that it lacks. -/
theorem infix_across {word before behind : List Char} {c : Char} (lacking : c ∉ word) :
    word <:+: before ++ c :: behind ↔ word <:+: before ∨ word <:+: behind := by
  refine ⟨fun occurs => ?_, fun either => ?_⟩
  · induction before with
    | nil =>
      rcases List.infix_cons_iff.mp occurs with start | later
      · cases word with
        | nil => exact Or.inl (List.nil_infix)
        | cons first rest =>
          obtain rfl := (List.cons_prefix_cons.mp start).1
          exact absurd List.mem_cons_self lacking
      · exact Or.inr later
    | cons first rest inductionHypothesis =>
      rcases List.infix_cons_iff.mp occurs with start | later
      · refine Or.inl (List.IsPrefix.isInfix ?_)
        have whole : first :: rest ++ [c] <+: (first :: rest) ++ c :: behind := by
          simp
        rcases List.prefix_or_prefix_of_prefix start whole with short | long
        · rcases List.prefix_concat_iff.mp short with same | within
          · rw [same] at lacking
            simp at lacking
          · exact within
        · exact absurd (long.subset (by simp)) lacking
      · rcases inductionHypothesis later with within | within
        · exact Or.inl (List.infix_cons within)
        · exact Or.inr within
  · rcases either with within | within
    · exact within.trans (List.prefix_append _ _).isInfix
    · exact (List.infix_cons within).trans (List.suffix_append _ _).isInfix

/-! ### Lines -/

/-- What ends a line. -/
def lineEnd : List Char := ['\r', '\n']

/-- The text of an error line with a code and with what stands behind the first space. -/
def lineOf (code : String) (rest : Option String) : String :=
  match rest with
  | none => code
  | some rest => code ++ " " ++ rest

/-- An error line: its code, and the rest behind the first space. -/
structure ErrorLine where
  code : String
  rest : Option String
  unspaced : ' ' ∉ code.toList
  unbroken : ¬ lineEnd <:+: (lineOf code rest).toList

theorem lineText_of_unbroken {text : List Char} (unbroken : ¬ lineEnd <:+: text) :
    lineText text = text := by
  induction text with
  | nil => rfl
  | cons c rest inductionHypothesis =>
    have behind := inductionHypothesis fun within => unbroken (List.infix_cons within)
    rw [lineText]
    · rw [behind]
    · intro other first second
      subst first second
      exact unbroken (List.prefix_append lineEnd other).isInfix

theorem splitCode_of_unspaced {code : List Char} (unspaced : ' ' ∉ code) :
    splitCode code = (code, none) := by
  induction code with
  | nil => rfl
  | cons c rest inductionHypothesis =>
    obtain ⟨other, later⟩ := List.ne_and_not_mem_of_not_mem_cons unspaced
    rw [splitCode, inductionHypothesis later]
    exact fun same => other same.symm

theorem splitCode_append {code : List Char} (unspaced : ' ' ∉ code) (rest : List Char) :
    splitCode (code ++ ' ' :: rest) = (code, some rest) := by
  induction code with
  | nil => rfl
  | cons c code inductionHypothesis =>
    obtain ⟨other, later⟩ := List.ne_and_not_mem_of_not_mem_cons unspaced
    rw [List.cons_append, splitCode, inductionHypothesis later]
    exact fun same => other same.symm

namespace ErrorLine

/-- The text of a line. -/
def text (line : ErrorLine) : String :=
  lineOf line.code line.rest

/-- Whether a word occurs in the code of a line or in its rest. -/
def quotes (line : ErrorLine) (word : String) : Bool :=
  mentions word.toList line.code.toList ||
    line.rest.any fun rest => mentions word.toList rest.toList

/-- The wording of the error that a line becomes. -/
def wording (line : ErrorLine) : String :=
  (Fault.ofCode line.code line.rest).message

/-- The codes that concern a cluster. -/
def clusterCodes : List String := ["MOVED", "ASK", "TRYAGAIN", "CLUSTERDOWN", "MASTERDOWN"]

/-- The error that a line becomes. -/
def classified (line : ErrorLine) : StoreError :=
  if line.quotes Fault.busyGroup then .groupExists line.wording
  else if line.code ∈ clusterCodes then .clusterSystem line.wording
  else .commandExecution line.wording

theorem ofLine_text (line : ErrorLine) :
    Fault.ofLine line.text = Fault.ofCode line.code line.rest := by
  have split : splitCode (lineOf line.code line.rest).toList =
      (line.code.toList, line.rest.map String.toList) := by
    cases line.rest with
    | none => exact splitCode_of_unspaced line.unspaced
    | some rest =>
      have apart : (lineOf line.code (some rest)).toList =
          line.code.toList ++ ' ' :: rest.toList := by
        simp [lineOf]
      rw [apart, splitCode_append line.unspaced, Option.map_some]
  rw [Fault.ofLine, text, lineText_of_unbroken line.unbroken, split]
  simp [Function.comp_def]

/-! ### Wordings -/

theorem mem_codes {code : String} {kind : FaultKind} (own : FaultKind.ofCode? code = some kind) :
    (code, kind) ∈ FaultKind.codes := by
  rw [FaultKind.ofCode?, Option.map_eq_some_iff] at own
  obtain ⟨⟨found, _⟩, first, rfl⟩ := own
  have same : found = code := by
    simpa using List.find?_some first
  rw [← same]
  exact List.mem_of_find?_eq_some first

/-- What a kind with a code of its own has to do with existing groups and with clusters: neither its
code nor its name quotes the code of an existing group, and it is a kind of clusters if the code is.
-/
theorem kind_of_ofCode? {code : String} {kind : FaultKind}
    (own : FaultKind.ofCode? code = some kind) :
    mentions Fault.busyGroup.toList code.toList = false ∧
      (kind.code? == some Fault.busyGroup) = false ∧
      mentions Fault.busyGroup.toList kind.name.toList = false ∧
      (kind == .typeError) = false ∧
      (kind.isClusterError || kind == .masterDown) = clusterCodes.contains code := by
  have table : ∀ entry ∈ FaultKind.codes,
      mentions Fault.busyGroup.toList entry.1.toList = false ∧
        (entry.2.code? == some Fault.busyGroup) = false ∧
        mentions Fault.busyGroup.toList entry.2.name.toList = false ∧
        (entry.2 == .typeError) = false ∧
        (entry.2.isClusterError || entry.2 == .masterDown) = clusterCodes.contains entry.1 := by
    decide
  exact table _ (mem_codes own)

theorem ofCode?_of_cluster : ∀ code ∈ clusterCodes, FaultKind.ofCode? code ≠ none := by decide

/-- The code of an existing group reaches across no space. -/
theorem mentions_spaced (before behind : String) :
    mentions Fault.busyGroup.toList (before ++ " " ++ behind).toList =
      (mentions Fault.busyGroup.toList before.toList ||
        mentions Fault.busyGroup.toList behind.toList) := by
  have lacking : ' ' ∉ Fault.busyGroup.toList := by decide
  have apart : (before ++ " " ++ behind).toList = before.toList ++ ' ' :: behind.toList := by
    simp
  rw [apart, Bool.eq_iff_iff, Bool.or_eq_true, mentions_iff, mentions_iff, mentions_iff,
    infix_across lacking]

/-- Nor does it reach into a colon behind a text. -/
theorem mentions_colon (text : String) :
    mentions Fault.busyGroup.toList (text ++ ":").toList =
      mentions Fault.busyGroup.toList text.toList := by
  have lacking : ':' ∉ Fault.busyGroup.toList := by decide
  have nonempty : Fault.busyGroup.toList ≠ [] := by decide
  have apart : (text ++ ":").toList = text.toList ++ ':' :: [] := by
    simp
  rw [apart, Bool.eq_iff_iff, mentions_iff, mentions_iff, infix_across lacking, List.infix_nil]
  exact or_iff_left nonempty

theorem mentions_detailed (title detail : String) :
    mentions Fault.busyGroup.toList (title ++ ": " ++ detail).toList =
      (mentions Fault.busyGroup.toList title.toList ||
        mentions Fault.busyGroup.toList detail.toList) := by
  have apart : title ++ ": " ++ detail = title ++ ":" ++ " " ++ detail := by
    simp [String.append_assoc]
  rw [apart, mentions_spaced, mentions_colon]

/-- A fault of a kind with a code of its own quotes only what its detail quotes. -/
theorem mentions_message {code : String} {kind : FaultKind}
    (own : FaultKind.ofCode? code = some kind) (rest : Option String) :
    mentions Fault.busyGroup.toList
        (Fault.described kind "An error was signalled by the server" rest).message.toList =
      rest.any fun rest => mentions Fault.busyGroup.toList rest.toList := by
  have name := (kind_of_ofCode? own).2.2.1
  have bare : mentions Fault.busyGroup.toList
      "An error was signalled by the server-".toList = false := by decide
  have titled : mentions Fault.busyGroup.toList
      "An error was signalled by the server -".toList = false := by decide
  cases rest with
  | none =>
    show mentions _ ("An error was signalled by the server-" ++ " " ++ kind.name).toList = _
    rw [mentions_spaced, bare, name]
    rfl
  | some rest =>
    show mentions _ ("An error was signalled by the server -" ++ " " ++ kind.name ++ ": " ++
      rest).toList = _
    rw [mentions_detailed, mentions_spaced, titled, name]
    rfl

/-- A line is taken for that of an existing group exactly if it quotes its code. -/
theorem saysGroupExists_ofCode (line : ErrorLine) :
    (Fault.ofCode line.code line.rest).saysGroupExists = line.quotes Fault.busyGroup := by
  rw [Fault.ofCode, quotes]
  cases own : FaultKind.ofCode? line.code with
  | none =>
    have spelled : line.code = Fault.busyGroup →
        mentions Fault.busyGroup.toList line.code.toList = true := by
      rintro same
      rw [same]
      decide
    have detail : mentions Fault.busyGroup.toList
        (line.rest.getD "Unknown extension error encountered").toList =
        line.rest.any fun rest => mentions Fault.busyGroup.toList rest.toList := by
      cases line.rest with
      | none => decide
      | some rest => rfl
    simp only [Fault.saysGroupExists, Fault.code?, Fault.message]
    rw [mentions_detailed, detail, Bool.eq_iff_iff]
    simp only [Bool.or_eq_true, beq_iff_eq, Option.some.injEq]
    exact ⟨fun either => either.elim (fun same => Or.inl (spelled same)) id, Or.inr⟩
  | some kind =>
    obtain ⟨code, other, -⟩ := kind_of_ofCode? own
    rw [Fault.saysGroupExists, mentions_message own, Fault.code?, other, code]

/-- Every error line becomes the error that its quotations and its code say. -/
theorem toStoreError_ofLine (line : ErrorLine) :
    (Fault.ofLine line.text).toStoreError = line.classified := by
  rw [ofLine_text, classified, Fault.toStoreError.eq_def, saysGroupExists_ofCode, wording]
  split
  · rfl
  · rw [Fault.ofCode]
    cases own : FaultKind.ofCode? line.code with
    | none =>
      rw [if_neg fun listed => ofCode?_of_cluster _ listed own]
    | some kind =>
      obtain ⟨-, -, -, untyped, cluster⟩ := kind_of_ofCode? own
      simp only [cluster, untyped, Bool.false_eq_true, ↓reduceIte, List.contains_iff_mem]

/-- An error is critical unless the line quotes the code of an existing group. -/
theorem isCritical_classified (line : ErrorLine) :
    line.classified.isCritical = !line.quotes Fault.busyGroup := by
  rw [classified]
  cases line.quotes Fault.busyGroup with
  | true => rfl
  | false =>
    simp only [Bool.false_eq_true, ↓reduceIte, Bool.not_false]
    split <;> rfl

end ErrorLine

/-- A call whose request is answered by an error line, or by a reply with an error line within it,
fails with the error of that line. -/
theorem Call.answer_of_errorLine {Value : Type} (line : ErrorLine) {call : Call Value}
    (asks : call.request?.isSome) (timeout : Nat) {reply : Reply}
    (refused : reply.firstError? = some line.text) :
    call.answer timeout (.replied reply) = .error line.classified := by
  cases call with
  | settled value => cases asks
  | asked Raw request read finish =>
    rw [Call.answer, Request.result, refused]
    dsimp only
    rw [line.toStoreError_ofLine]
    rfl

end Remote

/-! ### What becomes of a refused call -/

/-- Whether the stream service refuses the next call of a kind on a stream with an error. -/
def Pipeline.Refuses (pipeline : Pipeline) (method : StoreMethod) (stream : String)
    (error : StoreError) : Prop :=
  (Outage.meet method (some stream) pipeline.service.outages).1 = some error

theorem Pipeline.ask_of_refuses {Value : Type} {pipeline : Pipeline} {method : StoreMethod}
    {stream : String} {error : StoreError} (refuses : pipeline.Refuses method stream error)
    (operation : Streams.Store → Streams.Answer Value) :
    ∃ after, pipeline.ask (fun service => service.call method (some stream) operation) =
      (.error error, after) := by
  cases met : Outage.meet method (some stream) pipeline.service.outages with
  | mk found left =>
    rw [Pipeline.Refuses, met] at refuses
    obtain rfl : found = some error := refuses
    exact ⟨_, by simp only [Pipeline.ask, Service.call, met]; rfl⟩

/-- A refused read ends a listener if the error is critical; otherwise the listener waits, and goes
on where it was. -/
theorem Listener.read_of_refuses (settings : ListenerSettings) {spec : ListenerSpec} (now : Nat)
    (offset : ReadOffset) {pipeline : Pipeline} {error : StoreError}
    (refuses : pipeline.Refuses .readGroup spec.stream error) :
    (Listener.read settings spec now offset pipeline).1 =
      if error.isCritical then .stopping else .idle offset (now + settings.idleWait) := by
  obtain ⟨after, asked⟩ := Pipeline.ask_of_refuses refuses fun store =>
    store.readGroup spec.stream spec.group spec.consumer offset settings.readCount
  rw [Listener.read]
  dsimp only [Service.readGroup]
  rw [asked]
  dsimp only
  rw [Pipeline.cancelOnError]
  cases error.isCritical <;> rfl

namespace EnsurePhase

/-- The kind of the call that is made in a phase. -/
def method? : EnsurePhase → Option StoreMethod
  | .checking => some .exists
  | .seeding => some .append
  | .listing => some .groupNames
  | .creating => some .createGroup
  | .finished _ => none

/-- What the ensuring of a group makes of an error that refused a call of a kind. -/
def verdict (method : StoreMethod) (error : StoreError) : Except StoreError Unit :=
  match method, error with
  | .createGroup, .groupExists _ => .ok ()
  | _, error => .error error

/-- A refused call ends the ensuring of a group. -/
theorem step_of_refuses {phase : EnsurePhase} {method : StoreMethod}
    (calls : phase.method? = some method) {stream : String} (group : String) {pipeline : Pipeline}
    {error : StoreError} (refuses : pipeline.Refuses method stream error) :
    (phase.step stream group pipeline).1 = .finished (verdict method error) := by
  cases phase with
  | finished result => cases calls
  | checking =>
    obtain rfl := Option.some.inj calls
    obtain ⟨after, asked⟩ := Pipeline.ask_of_refuses refuses fun store => store.hasStream stream
    simp only [step, Service.hasStream, asked, verdict]
  | seeding =>
    obtain rfl := Option.some.inj calls
    obtain ⟨after, asked⟩ := Pipeline.ask_of_refuses refuses fun store =>
      store.append pipeline.wallMillis stream placeholder
    simp only [step, Service.append, asked, verdict]
  | listing =>
    obtain rfl := Option.some.inj calls
    obtain ⟨after, asked⟩ := Pipeline.ask_of_refuses refuses fun store => store.groupNames stream
    simp only [step, Service.groupNames, asked, verdict]
  | creating =>
    obtain rfl := Option.some.inj calls
    obtain ⟨after, asked⟩ := Pipeline.ask_of_refuses refuses fun store =>
      store.createGroup stream group
    simp only [step, Service.createGroup, asked, verdict]
    cases error <;> rfl

end EnsurePhase

namespace Remote.ErrorLine

open Fault (busyGroup)

theorem verdict_classified (line : ErrorLine) (method : StoreMethod) :
    EnsurePhase.verdict method line.classified =
      if method = .createGroup ∧ line.quotes busyGroup then .ok () else .error line.classified := by
  rw [classified]
  cases line.quotes busyGroup with
  | true => cases method <;> rfl
  | false =>
    simp only [Bool.false_eq_true, and_false, ↓reduceIte]
    split <;> cases method <;> rfl

/-- What every error line of the server leads to. It becomes the error of an existing group exactly
if it quotes the code of one, in its code or in its rest; otherwise the error of a cluster if its
code is one of a cluster, and that of a failed command if it is not. So does every call that it
answers, alone or within a reply. A listener that it refuses a read ends, unless the line quotes
that code; then the listener waits and goes on where it was. And the ensuring of a group fails with
it, except that the creation of the group is taken for a success if the line quotes that code. -/
theorem decided_by_quotation (line : ErrorLine) :
    (Fault.ofLine line.text).toStoreError =
        (if line.quotes busyGroup then .groupExists line.wording
        else if line.code ∈ clusterCodes then .clusterSystem line.wording
        else .commandExecution line.wording) ∧
      (∀ {Value : Type} (call : Call Value) (timeout : Nat) (reply : Reply),
        call.request?.isSome → reply.firstError? = some line.text →
          call.answer timeout (.replied reply) = .error (Fault.ofLine line.text).toStoreError) ∧
      (Fault.ofLine line.text).toStoreError.isCritical = !line.quotes busyGroup ∧
      (∀ (settings : ListenerSettings) (spec : ListenerSpec) (now : Nat) (offset : ReadOffset)
        (pipeline : Pipeline),
        pipeline.Refuses .readGroup spec.stream (Fault.ofLine line.text).toStoreError →
          (Listener.read settings spec now offset pipeline).1 =
            if line.quotes busyGroup then .idle offset (now + settings.idleWait)
            else .stopping) ∧
      ∀ (stream group : String) (phase : EnsurePhase) (method : StoreMethod) (pipeline : Pipeline),
        phase.method? = some method →
          pipeline.Refuses method stream (Fault.ofLine line.text).toStoreError →
          (phase.step stream group pipeline).1 = .finished
            (if method = .createGroup ∧ line.quotes busyGroup then .ok ()
            else .error (Fault.ofLine line.text).toStoreError) := by
  rw [line.toStoreError_ofLine]
  refine ⟨rfl, fun call timeout reply asks refused => ?_, line.isCritical_classified, ?_, ?_⟩
  · exact Call.answer_of_errorLine line asks timeout refused
  · intro settings spec now offset pipeline refuses
    rw [Listener.read_of_refuses settings now offset refuses, line.isCritical_classified]
    cases line.quotes busyGroup <;> rfl
  · intro stream group phase method pipeline calls refuses
    rw [EnsurePhase.step_of_refuses calls group refuses, line.verdict_classified]

/-- The line of a group that exists. -/
def existing : ErrorLine where
  code := "BUSYGROUP"
  rest := some "Consumer Group name already exists"
  unspaced := by decide
  unbroken := by decide

/-- The line of a missing group, in whose name the code of an existing one occurs. -/
def quoting : ErrorLine where
  code := "NOGROUP"
  rest := some "No such key 'orders' or consumer group 'BUSYGROUP-audit'"
  unspaced := by decide
  unbroken := by decide

/-- A pipeline whose stream service refuses all calls of a kind. -/
def refusing (method : StoreMethod) (error : StoreError) : Pipeline where
  service := ⟨.empty, [⟨method, none, error, 0, none⟩]⟩
  archive := .empty .memory
  wall := ⟨0, 0⟩

theorem refuses_refusing (method : StoreMethod) (stream : String) (error : StoreError) :
    (refusing method error).Refuses method stream error := by
  simp [refusing, Pipeline.Refuses, Outage.meet, Outage.concerns]

/-- A group that was created in the meantime is taken for one created here. -/
theorem existing_group_is_success :
    (Fault.ofLine existing.text).toStoreError = .groupExists existing.wording ∧
      (EnsurePhase.creating.step "orders" "audit"
        (refusing .createGroup (Fault.ofLine existing.text).toStoreError)).1 =
          .finished (.ok ()) := by
  obtain ⟨becomes, -, -, -, ensuring⟩ := existing.decided_by_quotation
  have quotes : existing.quotes busyGroup = true := by decide
  have ended := ensuring "orders" "audit" .creating .createGroup _ rfl
    (refuses_refusing .createGroup "orders" _)
  rw [if_pos ⟨rfl, quotes⟩] at ended
  exact ⟨becomes.trans (if_pos quotes), ended⟩

/-- A missing group whose name quotes that code is taken for an existing one: the error is not
critical, a listener that meets it goes on reading, and the creation of a group that meets it for a
success. -/
theorem quoted_name_is_success :
    quoting.code = "NOGROUP" ∧
      (Fault.ofLine quoting.text).toStoreError = .groupExists quoting.wording ∧
      (Fault.ofLine quoting.text).toStoreError.isCritical = false ∧
      (EnsurePhase.creating.step "orders" "audit"
        (refusing .createGroup (Fault.ofLine quoting.text).toStoreError)).1 =
          .finished (.ok ()) ∧
      ¬ ∀ line : ErrorLine, (∃ cause, (Fault.ofLine line.text).toStoreError = .groupExists cause) ↔
        line.code = "BUSYGROUP" := by
  have becomes : (Fault.ofLine quoting.text).toStoreError = .groupExists quoting.wording := by
    rw [toStoreError_ofLine]
    rfl
  refine ⟨rfl, becomes, by rw [becomes]; rfl, ?_, fun coded => ?_⟩
  · rw [becomes]
    exact EnsurePhase.step_of_refuses rfl "audit" (refuses_refusing .createGroup "orders" _)
  · exact absurd ((coded quoting).mp ⟨_, becomes⟩) (by decide)

end Remote.ErrorLine

end AccessFeed
