/-
Posts to the onboarding of boards, one after another. Each post that is answered is recorded in the active session
of its board that was touched last: behind the messages that the session had there is one more, which holds the
payload, and the session is completed just when the payload says so. A session that is completed stays as it is
(`posts_recorded`).
-/
import Mathlib.Data.String.Basic
import Taskboard.Proofs.Endpoint.Answers
import Taskboard.Proofs.Json.Reread
import Taskboard.Proofs.Storage.Changes
import Taskboard.Proofs.Storage.Sorting

namespace Taskboard

open Taskboard.Flow Tables

/-- A first value is that of the first row of the answer. -/
theorem Flow.InStep.first_heads {α : Type} {model : Model α} {plan : Plan} {s : Tables}
    {drawn : Nat → List UInt8 → Prop} (hvacuous : plan.isVacuous = false) :
    InStep drawn s s (model.first plan) (model.first plan) fun x? y? writes => writes = [] ∧ x? = y? ∧
      ∀ x, x? = some x → ∃ row rest, s.answer (plan.take 1) = row :: rest ∧ model.decode? (.object row) = some x := by
  have hvacuous' : (plan.take 1).isVacuous = false := hvacuous
  refine bindSame (all_decoded hvacuous') fun values hvalues => value ⟨rfl, rfl, fun x hx => ?_⟩
  obtain ⟨others, rfl⟩ := List.head?_eq_some_iff.1 hx
  rw [Model.decodeAll_eq_ok_iff, List.map_map] at hvalues
  obtain ⟨row, rest, hanswer, hdecode, -⟩ := List.map_eq_cons_iff.1 hvalues
  exact ⟨row, rest, hanswer, hdecode⟩

namespace Endpoint

/-! ## The session that a post goes to -/

/-- A row is an active session of a board. -/
def ActiveOn (boardId : String) (row : Record) : Prop :=
  row.text? "board_id" = some boardId ∧ row.text? "status" = some OnboardingStatus.active.word

/-- Between the rows in front of it and behind it a session is active on a board, and of the active sessions of the
board those in front were touched before it and those behind not after it. -/
structure Latest (s : Tables) (boardId : String) (front : List Record) (session : OnboardingSession)
    (back : List Record) : Prop where
  stored : ∃ row, s.rows OnboardingSession.schema.table = front ++ row :: back ∧ ActiveOn boardId row ∧
    OnboardingSession.ofRecord? row = some session
  front : ∀ other ∈ front, ActiveOn boardId other →
    ∃ time, other.text? "updated_at" = some time ∧ time < session.updatedAt
  back : ∀ other ∈ back, ActiveOn boardId other →
    ∃ time, other.text? "updated_at" = some time ∧ time ≤ session.updatedAt

/-- The plan of the active sessions of a board, those that were touched last in front. -/
def sessionPlan (boardId : String) : Plan :=
  ⟨OnboardingSession.schema, [.equals "board_id" (.string boardId),
    .equals "status" (.string OnboardingStatus.active.word)], [⟨"updated_at", .descending⟩], none, none⟩

theorem meets_sessionPlan {boardId : String} {row : Record} :
    (sessionPlan boardId).Meets row ↔ ActiveOn boardId row := by
  show (∀ part ∈ [Predicate.equals "board_id" (.string boardId),
    .equals "status" (.string OnboardingStatus.active.word)], part.holds row = true) ↔ _
  rw [List.forall_mem_cons, List.forall_mem_singleton, Predicate.holds_equals_string, Predicate.holds_equals_string]
  rfl

theorem updatedAt_of_ofRecord? {row : Record} {session : OnboardingSession}
    (h : OnboardingSession.ofRecord? row = some session) : row.text? "updated_at" = some session.updatedAt := by
  simp only [OnboardingSession.ofRecord?, Option.bind_eq_bind, Option.bind_eq_some_iff, Option.pure_def,
    Option.some.injEq] at h
  grind

variable {s t before after start now : Tables} {drawn : Nat → List UInt8 → Prop}

theorem latest_of_answer (hreadable : s.Readable) {boardId : String} {row : Record} {rest : List Record}
    {session : OnboardingSession} (h : s.answer ((sessionPlan boardId).take 1) = row :: rest)
    (hdecode : OnboardingSession.ofRecord? row = some session) : ∃ front back, Latest s boardId front session back := by
  obtain ⟨front, back, hrows, hmeets, hfront, hback⟩ := eq_append_of_answer rfl h
  have hrow := updatedAt_of_ofRecord? hdecode
  have htime : ∀ other ∈ front ++ back, ∃ time, other.text? "updated_at" = some time ∧
      compareRows [⟨"updated_at", .descending⟩] row other = compare time session.updatedAt := by
    intro other hother
    have hstored : other ∈ s.rows OnboardingSession.schema.table := by
      rw [show s.rows OnboardingSession.schema.table = front ++ row :: back from hrows]
      simp only [List.mem_append, List.mem_cons] at hother ⊢
      tauto
    obtain ⟨x, hx⟩ := hreadable .session other hstored
    exact ⟨x.updatedAt, updatedAt_of_ofRecord? hx, compareRows_descending hrow (updatedAt_of_ofRecord? hx)⟩
  refine ⟨front, back, ⟨row, hrows, meets_sessionPlan.1 hmeets, hdecode⟩, fun other hother hactive => ?_,
    fun other hother hactive => ?_⟩
  · obtain ⟨time, htext, hcompare⟩ := htime other (List.mem_append_left _ hother)
    have hlt := hfront other hother (meets_sessionPlan.2 hactive)
    exact ⟨time, htext, compare_lt_iff_lt.1 (hcompare.symm.trans hlt)⟩
  · obtain ⟨time, htext, hcompare⟩ := htime other (List.mem_append_right _ hother)
    have hle := hback other hother (meets_sessionPlan.2 hactive)
    exact ⟨time, htext, Std.LawfulBCmp.isLE_iff_le.1 ((congrArg Ordering.isLE hcompare).symm.trans hle)⟩

theorem latestActiveSession_latest (hreadable : s.Readable) (board : Board) :
    InStep drawn s s (latestActiveSession board) (latestActiveSession board) fun x y writes => writes = [] ∧ x = y ∧
      ∃ front back, Latest s board.id front x back := by
  refine .bindSame (.resolved _) fun plan hplan => ?_
  cases hplan
  refine .bindSame (.query (.first_heads rfl)) fun x? hhead => ?_
  refine (InStep.checked _).mono fun x y writes hseen => ⟨hseen.1, hseen.2.1, ?_⟩
  rcases x? with _ | x
  · cases hseen.2.2
  · cases hseen.2.2
    obtain ⟨row, rest, hanswer, hdecode⟩ := hhead _ rfl
    exact latest_of_answer hreadable hanswer hdecode

/-! ## Posts -/

/-- A post to the onboarding of a board: who posts what when. -/
structure Post where
  actor : Agent
  boardId : String
  payload : Json
  now : String

namespace Post

/-- The call of a post. -/
def flow (post : Post) : Serving OnboardingView :=
  updateOnboarding post.actor post.boardId post.payload post.now

/-- The message of a post with a content. -/
def message (post : Post) (content : String) : Json :=
  .object [("agent_id", .string post.actor.id), ("content", .string content), ("role", .string "assistant"),
    ("timestamp", .string post.now)]

/-- The payload of a post says that the onboarding is complete. -/
def Completes (post : Post) : Prop :=
  ∃ answer, post.payload = .object answer ∧ answer.lookup "status" = some (.string "complete")

/-- What a session becomes by a post, and what is shown of it: it has one message more, which holds the payload, and
is completed with the payload as its goal if the payload says so. -/
structure Extends (post : Post) (old new : OnboardingSession) (view : OnboardingView) : Prop where
  kept : new.id = old.id ∧ new.boardId = old.boardId ∧ new.createdAt = old.createdAt
  touched : new.updatedAt = post.now
  logged : ∃ messages content, OnboardingSession.messagesOf? old.messages = some messages ∧
    Json.parse? content = some post.payload ∧
    OnboardingSession.messagesOf? new.messages = some (messages ++ [post.message content])
  completed : post.Completes → new.status = .completed ∧
    ∃ goal, new.draftGoal? = some goal ∧ Json.parse? goal = some post.payload
  unfinished : ¬ post.Completes → new.status = old.status ∧ new.draftGoal? = old.draftGoal?
  shown : view = new.view ∧ OnboardingSession.messagesOf? new.messages = some view.messages ∧
    (post.Completes → view.draftGoal? = some post.payload)

end Post

/-- The messages of every session that can be read are nested no deeper than can be read, and have whole numbers of
64 bits only. -/
def PlainLogs (s : Tables) : Prop :=
  ∀ row ∈ s.rows OnboardingSession.schema.table, ∀ session, OnboardingSession.ofRecord? row = some session →
    ∀ messages, OnboardingSession.messagesOf? session.messages = some messages →
      Json.Plain Json.depthLimit (.array messages)

/-- What a conversation needs of the tables, and leaves so. -/
structure Orderly (s : Tables) : Prop where
  unique : s.UniqueIds
  readable : s.Readable
  logs : PlainLogs s

theorem Orderly.congr (h : Orderly s) (hrows : t.rows = s.rows) : Orderly t := by
  refine ⟨h.unique.congr hrows, fun entity => ?_, ?_⟩
  · rw [hrows]
    exact h.readable entity
  · unfold PlainLogs
    rw [hrows]
    exact h.logs

/-! ## One post -/

theorem messagesOf?_of_plain {messages : List Json} (h : Json.Plain Json.depthLimit (.array messages)) :
    OnboardingSession.messagesOf? (Json.array messages).render = some messages := by
  unfold OnboardingSession.messagesOf?
  rw [Json.parse?_render, h.reread]

theorem isComplete_iff {answer : Record} :
    isComplete answer = true ↔ answer.lookup "status" = some (.string "complete") := by
  rw [isComplete, beq_iff_eq, Record.text?_eq_some_iff]

namespace Post

variable {post : Post} {old : OnboardingSession} {answer : Record} {messages : List Json}

/-- A message is two levels deep at most, so a log that could be read still can with one more. -/
theorem plain_message (post : Post) (content : String) (h : Json.Plain Json.depthLimit (.array messages)) :
    Json.Plain Json.depthLimit (.array (messages ++ [post.message content])) := by
  have hsorted : ["agent_id", "content", "role", "timestamp"].Pairwise (· < ·) := by decide
  have hmessage : Json.Plain (125 + 1) (post.message content) := by
    refine .object ?_ (List.pairwise_map.1 hsorted)
    simp only [List.forall_mem_cons, List.not_mem_nil, false_implies, implies_true, and_true]
    exact ⟨.string _, .string _, .string _, .string _⟩
  have hmessages : ∀ message ∈ messages, Json.Plain 126 message := by
    cases h with
    | array hmessages => exact hmessages
  exact .array (List.forall_mem_append.2 ⟨hmessages, List.forall_mem_singleton.2 hmessage⟩)

/-- The session as the post leaves it. -/
theorem extends_answered (hpayload : post.payload = .object answer) (hplain : Json.Plain Json.depthLimit post.payload)
    (hmessages : OnboardingSession.messagesOf? old.messages = some messages)
    (hlog : Json.Plain Json.depthLimit (.array messages)) :
    let new := OnboardingSession.answered old messages post.actor answer post.now
    post.Extends old new new.view := by
  intro new
  have hcontent : Json.parse? post.payload.render = some post.payload := (Json.parse?_render _).trans hplain.reread
  have hlogged : OnboardingSession.messagesOf? new.messages =
      some (messages ++ [post.message post.payload.render]) := by
    have hmessage : answerMessage post.actor (.object answer) post.now = post.message post.payload.render := by
      rw [hpayload]
      rfl
    show OnboardingSession.messagesOf? (Json.array (messages ++ [answerMessage _ _ _])).render = _
    rw [hmessage]
    exact messagesOf?_of_plain (post.plain_message _ hlog)
  have hcompletes : post.Completes ↔ isComplete answer = true := by
    rw [isComplete_iff]
    refine ⟨fun ⟨other, hother, hstatus⟩ => ?_, fun hstatus => ⟨answer, hpayload, hstatus⟩⟩
    rwa [Json.object.inj (hpayload.symm.trans hother)]
  have hgoal : post.Completes → new.draftGoal? = some post.payload.render := fun h => by
    rw [hpayload]
    exact if_pos (hcompletes.1 h)
  refine ⟨⟨rfl, rfl, rfl⟩, rfl, ⟨messages, _, hmessages, hcontent, hlogged⟩, fun h => ?_, fun h => ?_, rfl, ?_,
    fun h => ?_⟩
  · exact ⟨if_pos (hcompletes.1 h), _, hgoal h, hcontent⟩
  · exact ⟨if_neg (mt hcompletes.2 h), if_neg (mt hcompletes.2 h)⟩
  · show _ = some ((OnboardingSession.messagesOf? new.messages).getD [])
    rw [hlogged]
    rfl
  · show new.draftGoal?.bind Json.parse? = _
    rw [hgoal h]
    exact hcontent

/-- A post that is answered has found the session that it goes to, and writes it with its message. -/
theorem flow_records (hreadable : s.Readable) (post : Post) : InStep drawn s s post.flow post.flow
    fun view _ writes => ∃ front old back answer messages, Latest s post.boardId front old back ∧
      post.payload = .object answer ∧ OnboardingSession.messagesOf? old.messages = some messages ∧
      let new := OnboardingSession.answered old messages post.actor answer post.now
      view = new.view ∧ writes = [⟨.update, OnboardingSession.schema, new.record⟩] := by
  obtain ⟨actor, boardId, payload, now⟩ := post
  refine .bindSame (boardFor_grounds boardId) fun board hboard => ?_
  obtain ⟨rfl, -, -⟩ := hboard
  cases payload with
  | object answer =>
    refine .bindSame (latestActiveSession_latest hreadable board) fun session hsession => ?_
    obtain ⟨front, back, hlatest⟩ := hsession
    dsimp only
    split
    · exact .fail _
    · rename_i messages hmessages
      refine .andReturn ((InStep.storage (.send rfl)).mono fun _ _ writes hwrites => ?_)
      exact ⟨front, session, back, answer, messages, hlatest, rfl, hmessages, rfl, hwrites⟩
  | _ => exact .fail _

/-- A post changes one row: the session that it goes to has the message of the post. -/
def Records (post : Post) (s t : Tables) (view : OnboardingView) : Prop :=
  ∃ front old back new, Latest s post.boardId front old back ∧ post.Extends old new view ∧
    t.rows OnboardingSession.schema.table = front ++ OnboardingSession.record new :: back ∧
    ∀ table, table ≠ OnboardingSession.schema.table → t.rows table = s.rows table

end Post

section Written

variable {boardId : String} {front back : List Record} {old new : OnboardingSession}

/-- A session that is written with the identifier of the one that was found takes its place. -/
theorem Latest.written (h : Latest s boardId front old back) (hunique : s.UniqueIds) (hid : new.id = old.id) :
    (s.carryOut ⟨.update, OnboardingSession.schema, new.record⟩).rows OnboardingSession.schema.table =
      front ++ new.record :: back := by
  obtain ⟨row, hrows, -, hdecode⟩ := h.stored
  have hkey : row.text? "id" = some new.id := hid ▸ (OnboardingSession.text?_of_ofRecord? hdecode).1
  have hothers := text?_ne_of_nodup hkey (hrows ▸ hunique .session)
  have hrecord : new.record.text? OnboardingSession.schema.idField = some new.id := rfl
  rw [rows_carryOut_update hrecord, hrows]
  exact replaceFirst_append (fun other hother => hothers other (List.mem_append_left _ hother)) hkey

theorem Latest.orderly (h : Latest s boardId front old back) (horderly : Orderly s) (hid : new.id = old.id)
    (hboard : new.boardId = old.boardId) {messages : List Json}
    (hmessages : OnboardingSession.messagesOf? new.messages = some messages)
    (hlog : Json.Plain Json.depthLimit (.array messages)) :
    Orderly (s.carryOut ⟨.update, OnboardingSession.schema, new.record⟩) := by
  have hwritten := h.written horderly.unique hid
  obtain ⟨row, hrows, -, hdecode⟩ := h.stored
  obtain ⟨hkey, hplace⟩ := OnboardingSession.text?_of_ofRecord? hdecode
  have hmem : row ∈ s.rows Entity.session.table :=
    hrows ▸ List.mem_append_right front (List.mem_cons_self ..)
  refine ⟨uniqueIds_replaced horderly.unique ⟨row, hmem, hid ▸ hkey, hboard ▸ hplace⟩ new.rowOn,
    readable_replaced horderly.unique new.rowOn horderly.readable, ?_⟩
  -- A log is one that was there, or the one that is written.
  intro stored hstored session hsession log hlog'
  rw [hwritten, List.mem_append, List.mem_cons] at hstored
  rcases hstored with hstored | rfl | hstored
  · exact horderly.logs stored (hrows ▸ List.mem_append_left _ hstored) session hsession log hlog'
  · obtain rfl := Option.some.inj (hsession.symm.trans new.ofRecord?_record)
    obtain rfl := Option.some.inj (hlog'.symm.trans hmessages)
    exact hlog
  · exact horderly.logs stored (hrows ▸ List.mem_append_right _ (List.mem_cons_of_mem _ hstored)) session hsession log
      hlog'

end Written

/-- A post that fails changes no row, and one that is answered is recorded. -/
theorem Post.run_records (post : Post) (horderly : Orderly s) (hplain : Json.Plain Json.depthLimit post.payload)
    (fault? : Option Fault) (source : Entropy) :
    match post.flow.run store { s with fault? := fault? } source with
    | (.error _, after, _) => after.rows = s.rows
    | (.ok view, after, _) => post.Records s after view ∧ Orderly after := by
  have hends := (@Post.flow_records s (fun _ _ => True) horderly.readable post).commits
    (a := { s with fault? := fault? }) rfl source fun _ _ => trivial
  rcases hrun : post.flow.run store { s with fault? := fault? } source with ⟨_ | view, after, rest⟩ <;>
    rw [hrun] at hends
  · exact hends
  · obtain ⟨writes, ⟨front, old, back, answer, messages, hlatest, hpayload, hmessages, rfl, rfl⟩, hrows⟩ := hends
    obtain ⟨row, hstored, -, hdecode⟩ := hlatest.stored
    have hlog := horderly.logs row (hstored ▸ List.mem_append_right front (List.mem_cons_self ..)) old hdecode messages
      hmessages
    have hextends := Post.extends_answered hpayload hplain hmessages hlog
    let new := OnboardingSession.answered old messages post.actor answer post.now
    let write : Write := ⟨.update, OnboardingSession.schema, new.record⟩
    refine ⟨⟨front, old, back, _, hlatest, hextends, ?_, fun table htable => ?_⟩, ?_⟩
    · rw [hrows]
      exact hlatest.written horderly.unique rfl
    · rw [hrows]
      exact @rows_carryOut_of_ne s table write htable
    · obtain ⟨messages', content, hmessages', -, hlogged⟩ := hextends.logged
      obtain rfl : messages' = messages := Option.some.inj (hmessages'.symm.trans hmessages)
      have hafter : Orderly (s.carryOut write) :=
        hlatest.orderly horderly rfl rfl hlogged (post.plain_message content hlog)
      exact hafter.congr hrows

/-! ## Posts one after another -/

/-- A post, whatever failure waits. -/
inductive Posted (before : Tables) : Tables → Prop
  | post (post : Post) (hplain : Json.Plain Json.depthLimit post.payload) (fault? : Option Fault) (source : Entropy) :
    Posted before (post.flow.run store { before with fault? := fault? } source).2.1

theorem Posted.cases (h : Posted before after) (horderly : Orderly before) :
    after.rows = before.rows ∨ ∃ post view, Post.Records post before after view ∧ Orderly after := by
  obtain ⟨post, hplain, fault?, source⟩ := h
  have hends := post.run_records horderly hplain fault? source
  rcases hrun : post.flow.run store { before with fault? := fault? } source with ⟨_ | view, after, rest⟩ <;>
    rw [hrun] at hends
  · exact .inl hends
  · exact .inr ⟨post, view, hends⟩

theorem Posted.orderly (h : Posted before after) (horderly : Orderly before) : Orderly after := by
  rcases h.cases horderly with hrows | ⟨post, view, -, hafter⟩
  · exact horderly.congr hrows
  · exact hafter

theorem orderly_of_run (horderly : Orderly start) (hrun : Relation.ReflTransGen Posted start now) : Orderly now := by
  induction hrun with
  | refl => exact horderly
  | tail _ hstep ih => exact hstep.orderly ih

/-- A session that is completed stands where it stood, as it was. -/
def Stays (s t : Tables) : Prop :=
  ∀ (i : Nat) (row : Record) (session : OnboardingSession), (s.rows OnboardingSession.schema.table)[i]? = some row →
    OnboardingSession.ofRecord? row = some session → session.status = .completed →
      (t.rows OnboardingSession.schema.table)[i]? = some row

theorem Posted.stays (h : Posted before after) (horderly : Orderly before) : Stays before after := by
  intro i row session hrow hdecode hcompleted
  rcases h.cases horderly with hrows | ⟨post, view, ⟨front, old, back, new, hlatest, -, hrows, -⟩, -⟩
  · rw [hrows]
    exact hrow
  · -- The row that changes is an active session, so it is another.
    obtain ⟨changed, hstored, hactive, hold⟩ := hlatest.stored
    have hne : i ≠ front.length := by
      rintro rfl
      rw [hstored, List.getElem?_append_right (Nat.le_refl _), Nat.sub_self, List.getElem?_cons_zero] at hrow
      cases hrow
      obtain rfl := Option.some.inj (hdecode.symm.trans hold)
      cases (status_of_ofRecord? hold hactive.2).symm.trans hcompleted
    have hset : front ++ new.record :: back = (front ++ changed :: back).set front.length new.record := by
      simp
    rw [hrows, hset, List.getElem?_set_ne hne.symm, ← hstored]
    exact hrow

theorem stays_of_run (horderly : Orderly start) (hrun : Relation.ReflTransGen Posted start now) : Stays start now := by
  induction hrun with
  | refl => exact fun _ _ _ hrow _ _ => hrow
  | tail hrun hstep ih =>
    exact fun i row session hrow hdecode hcompleted =>
      hstep.stays (orderly_of_run horderly hrun) i row session (ih i row session hrow hdecode hcompleted) hdecode
        hcompleted

/-- Along any run of posts to the onboarding of boards, from tables with unique identifiers whose rows can be read and
whose logs are nested no deeper than can be read, a session that is completed stays as it is; and a post that is
answered is recorded in the active session of its board that was touched last, the first in its table of those, and
in no other row. Its messages are then those that it had and one that holds the payload, it is completed with the
payload as its goal if and only if the payload says so, and is shown so. -/
theorem posts_recorded (hunique : start.UniqueIds) (hreadable : start.Readable) (hlogs : PlainLogs start)
    (hrun : Relation.ReflTransGen Posted start now) :
    (∀ later, Relation.ReflTransGen Posted now later → Stays now later) ∧
    ∀ (post : Post), Json.Plain Json.depthLimit post.payload → ∀ (fault? : Option Fault) (source : Entropy) view after
      rest, post.flow.run store { now with fault? := fault? } source = (.ok view, after, rest) →
        post.Records now after view := by
  have horderly := orderly_of_run ⟨hunique, hreadable, hlogs⟩ hrun
  refine ⟨fun later hlater => stays_of_run horderly hlater, fun post hplain fault? source view after rest hended => ?_⟩
  have hends := post.run_records horderly hplain fault? source
  rw [hended] at hends
  exact hends.1

/-! ## Two posts -/

/-- A session of the first board that is completed. -/
def hint : OnboardingSession :=
  ⟨"s0", "b1", .completed, "[\"hello\"]", some "\"tea\"", "2024-01-01", "2024-06-01"⟩

theorem uniqueIds_lounge : (lounge [hint]).UniqueIds := by
  intro entity
  cases entity with
  | session => exact (by decide : ["s0", "s1"].Nodup)
  | board => exact List.nodup_singleton "b1"
  | agent => exact List.nodup_singleton "a1"
  | task | comment | approval | memory => exact List.nodup_nil

theorem readable_lounge : (lounge [hint]).Readable := by
  intro entity row hrow
  cases entity with
  | session =>
    rcases List.mem_pair.1 hrow with rfl | rfl
    · exact ⟨hint, hint.ofRecord?_record⟩
    · exact ⟨chat, chat.ofRecord?_record⟩
  | board => exact List.mem_singleton.1 hrow ▸ ⟨_, rfl⟩
  | agent => exact List.mem_singleton.1 hrow ▸ ⟨lead, lead.ofRecord?_record⟩
  | task | comment | approval | memory => exact absurd hrow List.not_mem_nil

theorem plainLogs_lounge : PlainLogs (lounge [hint]) := by
  have hlogs : ∀ session ∈ [hint, chat], ∀ messages, OnboardingSession.messagesOf? session.messages = some messages →
      Json.Plain Json.depthLimit (.array messages) := by
    have hhint : OnboardingSession.messagesOf? hint.messages = some [.string "hello"] :=
      messagesOf?_of_plain (.array (List.forall_mem_singleton.2 (.string "hello")))
    have hchat : OnboardingSession.messagesOf? chat.messages = some [] :=
      @messagesOf?_of_plain [] (.array (List.forall_mem_nil _))
    refine List.forall_mem_cons.2 ⟨fun messages h => ?_, List.forall_mem_singleton.2 fun messages h => ?_⟩
    · obtain rfl := Option.some.inj (hhint.symm.trans h)
      exact .array (List.forall_mem_singleton.2 (.string "hello"))
    · obtain rfl := Option.some.inj (hchat.symm.trans h)
      exact .array (List.forall_mem_nil _)
  intro row hrow session hsession
  rcases List.mem_pair.1 hrow with rfl | rfl
  · obtain rfl := Option.some.inj (hint.ofRecord?_record.symm.trans hsession)
    exact hlogs hint (List.mem_cons_self ..)
  · obtain rfl := Option.some.inj (chat.ofRecord?_record.symm.trans hsession)
    exact hlogs chat (List.mem_cons_of_mem _ (List.mem_singleton_self _))

/-- The lead says that blue is fine. -/
def opening : Post :=
  ⟨lead, "b1", .object [("answer", .string "blue")], "2024-04-01"⟩

/-- The lead says what the goal is. -/
def goal : Post :=
  ⟨lead, "b1", .object [("goal", .string "tidy"), ("status", .string "complete")], "2024-05-01"⟩

theorem plain_opening : Json.Plain Json.depthLimit opening.payload :=
  .object (List.forall_mem_singleton.2 (.string "blue")) (List.pairwise_singleton ..)

theorem plain_goal : Json.Plain Json.depthLimit goal.payload :=
  .object (List.forall_mem_cons.2 ⟨.string "tidy", List.forall_mem_singleton.2 (.string "complete")⟩)
    (List.pairwise_pair.2 (by decide))

/-- The tables after the first post. -/
def chosen : Tables :=
  (opening.flow.run store (lounge [hint]) .counting).2.1

theorem posts_recorded_lounge : (lounge [hint]).UniqueIds ∧ (lounge [hint]).Readable ∧ PlainLogs (lounge [hint]) ∧
    Posted (lounge [hint]) chosen ∧ ∃ view after rest, goal.flow.run store { chosen with fault? := none } .counting =
      (.ok view, after, rest) ∧ goal.Records chosen after view ∧ Stays chosen after := by
  have hrun : Posted (lounge [hint]) chosen := .post opening plain_opening none .counting
  obtain ⟨hstays, hrecords⟩ := posts_recorded uniqueIds_lounge readable_lounge plainLogs_lounge (.single hrun)
  obtain ⟨view, after, rest, hended⟩ :=
    @exists_run_eq _ _ goal.flow { chosen with fault? := none } .counting (by decide +kernel)
  have hlater : Posted chosen after := by
    have hpost := @Posted.post chosen goal plain_goal none .counting
    rwa [hended] at hpost
  exact ⟨uniqueIds_lounge, readable_lounge, plainLogs_lounge, hrun, view, after, rest, hended,
    hrecords goal plain_goal none .counting view after rest hended, hstays after (.single hlater)⟩

end Endpoint

end Taskboard
