/-
Answers to the onboarding of one board side by side. An answer writes the whole session as it computed it from
the session that it found, so what one answer has written lasts unless another overtakes it, that is, had read
before and writes after it (`answers_after`, `answer_lost`). What lasts of an answer is said by `Lasts`; that it
lasts is one invariant of the turns (`Underway`), whatever it is.
-/
import Taskboard.Proofs.Endpoint.Callers
import Taskboard.Proofs.Endpoint.Decisions
import Taskboard.Proofs.Json.Readable

namespace Taskboard.Endpoint

open Taskboard.Flow Tables

/-! ## The place of a session -/

/-- The place of a session in its table: the rows before and behind it, its board and its identifier. -/
structure Place where
  front : List Record
  back : List Record
  boardId : String
  sessionId : String

theorem status_of_ofRecord? {row : Record} {session : OnboardingSession} {status : OnboardingStatus}
    (h : OnboardingSession.ofRecord? row = some session) (hstatus : row.text? "status" = some status.word) :
    session.status = status := by
  have hword : row.word? "status" = some status.word := by
    unfold Record.word?
    rw [Record.text?_eq_some_iff.1 hstatus]
  simp only [OnboardingSession.ofRecord?, hword, Option.bind_eq_bind, Option.bind_eq_some_iff, Option.pure_def,
    Option.some.injEq] at h
  grind [OnboardingStatus.ofWord?_word]

namespace Place

/-- No other row is an active session of the board, and none in front has the identifier of the session. -/
structure Alone (place : Place) : Prop where
  inactive : ∀ row ∈ place.front ++ place.back,
    ¬ (row.text? "board_id" = some place.boardId ∧ row.text? "status" = some OnboardingStatus.active.word)
  first : ∀ row ∈ place.front, row.text? "id" ≠ some place.sessionId

/-- A session stands in a place. -/
def Holds (place : Place) (s : Tables) (session : OnboardingSession) : Prop :=
  session.id = place.sessionId ∧ session.boardId = place.boardId ∧
    ∃ row, s.rows OnboardingSession.schema.table = place.front ++ row :: place.back ∧
      OnboardingSession.ofRecord? row = some session

variable {place : Place} {s t : Tables} {session seen changed : OnboardingSession}

theorem Holds.congr (h : place.Holds s session) (hrows : t.rows = s.rows) : place.Holds t session := by
  obtain ⟨hid, hboard, row, hplace, hdecode⟩ := h
  exact ⟨hid, hboard, row, by rw [hrows, hplace], hdecode⟩

/-- A session that stands alone is the only one that can be found active. -/
theorem Holds.found (h : place.Holds s session) (halone : place.Alone)
    (hfound : ActiveSession s place.boardId seen) : seen = session ∧ session.status = .active := by
  obtain ⟨-, -, row, hplace, hdecode⟩ := h
  obtain ⟨other, hother, hboard, hstatus, hother'⟩ := hfound
  have hmem : other ∈ place.front ++ row :: place.back := hplace ▸ hother
  obtain rfl : other = row := by
    by_contra hne
    have hout : other ∈ place.front ++ place.back := by
      simp only [List.mem_append, List.mem_cons] at hmem ⊢
      tauto
    exact halone.inactive other hout ⟨hboard, hstatus⟩
  obtain rfl : seen = session := Option.some.inj (hother'.symm.trans hdecode)
  exact ⟨rfl, status_of_ofRecord? hdecode hstatus⟩

/-- A session that is written with its identifier takes the place of the one that stood there. -/
theorem Holds.updated (h : place.Holds s session) (halone : place.Alone) (hid : changed.id = place.sessionId)
    (hboard : changed.boardId = place.boardId) :
    place.Holds (s.carryOut ⟨.update, OnboardingSession.schema, changed.record⟩) changed := by
  obtain ⟨hkey, -, row, hplace, hdecode⟩ := h
  have hrow : row.text? "id" = some place.sessionId := hkey ▸ (OnboardingSession.text?_of_ofRecord? hdecode).1
  have hrecord : changed.record.text? OnboardingSession.schema.idField = some place.sessionId := hid ▸ rfl
  refine ⟨hid, hboard, changed.record, ?_, changed.ofRecord?_record⟩
  rw [rows_carryOut_update hrecord, hplace]
  exact replaceFirst_append halone.first hrow

end Place

/-! ## The answers -/

/-- Answers to the onboarding of a board: who gives which answer when. -/
structure Answers (ι : Type) where
  actor : ι → Agent
  payload : ι → Json
  now : ι → String

/-- A message is among those that a log is read as. -/
def Logged (log : String) (message : Json) : Prop :=
  ∃ messages, OnboardingSession.messagesOf? log = some messages ∧ message ∈ messages

/-- The messages of a log that was written, each as it is read again. -/
theorem messagesOf?_render (messages : List Json) :
    OnboardingSession.messagesOf? (Json.array messages).render = messages.mapM (Json.reread 126) := by
  have hread : Json.parse? (Json.array messages).render = (messages.mapM (Json.reread 126)).map .array :=
    Json.parse?_render _
  unfold OnboardingSession.messagesOf?
  rw [hread]
  cases messages.mapM (Json.reread 126) <;> rfl

/-- The messages of a log that was read are read again from what is written of them. -/
theorem isSome_reread_of_messagesOf? {log : String} {messages : List Json}
    (h : OnboardingSession.messagesOf? log = some messages) : ∀ message ∈ messages, (Json.reread 126 message).isSome := by
  unfold OnboardingSession.messagesOf? at h
  split at h
  · rename_i hread
    cases h
    cases Json.readable_of_parse? hread with
    | array hmessages => exact fun message hmessage => (hmessages message hmessage).reread
  · cases h

/-- What is left of an answer that has found a session: to write it as the answer leaves it. -/
def recording (changed : OnboardingSession) : Serving OnboardingView :=
  commit ⟨.update, OnboardingSession.schema, changed.record⟩ unwritten changed.view

theorem recording_injective {changed other : OnboardingSession} (h : recording changed = recording other) :
    changed = other := by
  obtain ⟨hwrite, -⟩ := Flow.write.inj h
  have hrecord : changed.record = other.record := congrArg Write.row hwrite
  exact Option.some.inj (changed.ofRecord?_record.symm.trans (hrecord ▸ other.ofRecord?_record))

namespace Answers

variable {ι : Type} (answers : Answers ι)

/-- The call of an answer. -/
def flow (boardId : String) (i : ι) : Serving OnboardingView :=
  updateOnboarding (answers.actor i) boardId (answers.payload i) (answers.now i)

/-- All answers before they have begun. -/
def race (boardId : String) (start : Tables) (source : Entropy) : Race ι Failure OnboardingView Tables :=
  ⟨answers.flow boardId, start, source⟩

/-- The message of an answer. -/
def entry (i : ι) : Json :=
  answerMessage (answers.actor i) (answers.payload i) (answers.now i)

/-- An answer that ends the onboarding. -/
def Completes (i : ι) : Prop :=
  ∃ answer, answers.payload i = .object answer ∧ isComplete answer = true

/-- What a session is after an answer, whatever it was before. -/
structure Leaves (place : Place) (i : ι) (changed : OnboardingSession) : Prop where
  id : changed.id = place.sessionId
  boardId : changed.boardId = place.boardId
  logged : Logged changed.messages (answers.entry i)
  completed : answers.Completes i →
    changed.status = .completed ∧ changed.draftGoal? = some (answers.payload i).render

/-- The messages of the answers in one log are in another. -/
def Keeps (log later : String) : Prop :=
  ∀ i, Logged log (answers.entry i) → Logged later (answers.entry i)

theorem entry_plain (i : ι) (depth : Nat) : Json.Plain (depth + 1) (answers.entry i) := by
  have hsorted : ["agent_id", "content", "role", "timestamp"].Pairwise (· < ·) := by decide
  refine .object ?_ (List.pairwise_map.1 hsorted)
  simp only [List.forall_mem_cons, List.not_mem_nil, false_implies, implies_true, and_true]
  exact ⟨.string _, .string _, .string _, .string _⟩

/-- What is written of a log that was read and of one more message is read again, with the messages of all the
answers in it. -/
theorem logged_render {log : String} {messages : List Json} (h : OnboardingSession.messagesOf? log = some messages)
    (i : ι) : ∀ j, answers.entry j ∈ messages ++ [answers.entry i] →
      Logged (Json.array (messages ++ [answers.entry i])).render (answers.entry j) := by
  have hentry : ∀ j, Json.reread 126 (answers.entry j) = some (answers.entry j) := fun j =>
    (answers.entry_plain j 125).reread
  have hall : ∀ message ∈ messages ++ [answers.entry i], (Json.reread 126 message).isSome := by
    refine List.forall_mem_append.2 ⟨isSome_reread_of_messagesOf? h, List.forall_mem_singleton.2 ?_⟩
    rw [hentry i]
    rfl
  obtain ⟨again, hagain⟩ := Option.isSome_iff_exists.1 (Json.isSome_mapM hall)
  exact fun j hj => ⟨again, (messagesOf?_render _).trans hagain, Json.mem_of_mapM hagain hj (hentry j)⟩

end Answers

/-! ## One turn -/

section Turns

variable {ι : Type} [DecidableEq ι] {answers : Answers ι} {place : Place} (race : Race ι Failure OnboardingView Tables)
  (i : ι) {current changed : OnboardingSession}

/-- The first turn of an answer finds the session, if it is active, and leaves it to be written with the answer. -/
theorem turn_finds (halone : place.Alone) (hplace : place.Holds race.state current)
    (hleft : race.left i = answers.flow place.boardId i) : (race.turn store i).state.rows = race.state.rows ∧
      ((race.turn store i).Fails i ∨ ∃ changed, (race.turn store i).left i = recording changed ∧
        current.status = .active ∧ answers.Leaves place i changed ∧
          answers.Keeps current.messages changed.messages) := by
  have hadvance : (race.left i).advance store race.state race.source =
      (answers.flow place.boardId i).pause store race.state race.source := by
    rw [hleft]
    rfl
  obtain ⟨hrows, hrest⟩ := updateOnboarding_decides place.boardId (answers.payload i) (answers.now i) race.state
    race.source rfl
  unfold Race.Fails
  rw [Race.left_turn_self, Race.state_turn, hadvance]
  refine ⟨hrows, hrest.imp_right ?_⟩
  rintro ⟨before, answer, messages, hpayload, hactive, hmessages, hcommit⟩
  obtain ⟨rfl, hstatus⟩ := hplace.found halone hactive
  have hentry : answerMessage (answers.actor i) (.object answer) (answers.now i) = answers.entry i := by
    unfold Answers.entry
    rw [hpayload]
  -- The log is written as it was read, with the message of this answer behind it.
  have hlogged := answers.logged_render hmessages i
  refine ⟨_, hcommit, hstatus, ⟨hplace.1, hplace.2.1, ?_, ?_⟩, fun j hbefore => ?_⟩
  · show Logged (Json.array (messages ++ [answerMessage _ (.object answer) _])).render _
    rw [hentry]
    exact hlogged i (List.mem_append_right _ (List.mem_singleton_self _))
  · rintro ⟨answer', hpayload', hcomplete⟩
    obtain rfl : answer = answer' := Json.object.inj (hpayload.symm.trans hpayload')
    rw [hpayload]
    exact ⟨if_pos hcomplete, if_pos hcomplete⟩
  · obtain ⟨earlier, hearlier, hmem⟩ := hbefore
    obtain rfl : earlier = messages := Option.some.inj (hearlier.symm.trans hmessages)
    show Logged (Json.array (earlier ++ [answerMessage _ (.object answer) _])).render _
    rw [hentry]
    exact hlogged j (List.mem_append_left _ hmem)

/-- The second turn of an answer writes the session as the answer left it, or fails. -/
theorem turn_records (halone : place.Alone) (hplace : place.Holds race.state current)
    (hleaves : answers.Leaves place i changed) (hleft : race.left i = recording changed) :
    ((race.turn store i).Fails i ∧ (race.turn store i).state.rows = race.state.rows) ∨
      ((race.turn store i).Succeeds i ∧ place.Holds (race.turn store i).state changed) := by
  have hadvance := advance_commit store ⟨.update, OnboardingSession.schema, changed.record⟩ unwritten
    changed.view race.state race.source
  unfold Race.Fails Race.Succeeds
  rw [Race.left_turn_self, Race.state_turn, hleft, recording, hadvance]
  rcases write_cases ⟨.update, OnboardingSession.schema, changed.record⟩ race.state with
    ⟨e, after, hrows, hwrite⟩ | ⟨after, hrows, hwrite⟩
  · rw [hwrite]
    exact .inl ⟨⟨unwritten e, rfl⟩, hrows⟩
  · rw [hwrite]
    exact .inr ⟨⟨changed.view, rfl⟩, (hplace.updated halone hleaves.id hleaves.boardId).congr hrows⟩

end Turns

/-! ## Who overtakes whom -/

section Orders

variable {ι : Type} [DecidableEq ι] {turns : List ι} {i j k : ι}

/-- A call has read before another writes, and has not taken its second turn since. -/
def Trails (turns : List ι) (j i : ι) : Prop :=
  ∃ front back, turns = front ++ i :: back ∧ j ≠ i ∧ front.count i = 1 ∧ front.count j = 1 ∧ j ∉ back

/-- A call has read before another writes, and takes its second turn behind it. -/
def Overtakes (turns : List ι) (j i : ι) : Prop :=
  ∃ front back, turns = front ++ i :: back ∧ j ≠ i ∧ front.count i = 1 ∧ front.count j = 1 ∧ j ∈ back

/-- Overtaking, by the place of the turn in which the overtaken call writes. -/
theorem overtakes_iff : Overtakes turns j i ↔ j ≠ i ∧ ∃ place < turns.length, turns[place]? = some i ∧
    (turns.take place).count i = 1 ∧ (turns.take place).count j = 1 ∧ j ∈ turns.drop (place + 1) := by
  constructor
  · rintro ⟨front, back, rfl, hne, hi, hj, hmem⟩
    exact ⟨hne, front.length, by simp, by simp, by simpa using hi, by simpa using hj, by simpa using hmem⟩
  · rintro ⟨hne, place, hplace, hwrite, hi, hj, hmem⟩
    obtain rfl : turns[place] = i := Option.some.inj ((List.getElem?_eq_getElem hplace).symm.trans hwrite)
    refine ⟨turns.take place, turns.drop (place + 1), ?_, hne, hi, hj, hmem⟩
    rw [← List.drop_eq_getElem_cons hplace, List.take_append_drop]

instance : Decidable (Overtakes turns j i) :=
  decidable_of_iff' _ overtakes_iff

theorem Overtakes.append (h : Overtakes turns j i) (k : ι) : Overtakes (turns ++ [k]) j i := by
  obtain ⟨front, back, rfl, hne, hi, hj, hmem⟩ := h
  exact ⟨front, back ++ [k], by simp, hne, hi, hj, List.mem_append_left _ hmem⟩

theorem Trails.append (h : Trails turns j i) (hk : k ≠ j) : Trails (turns ++ [k]) j i := by
  obtain ⟨front, back, rfl, hne, hi, hj, hmem⟩ := h
  refine ⟨front, back ++ [k], by simp, hne, hi, hj, fun h => ?_⟩
  rcases List.mem_append.1 h with h | h
  · exact hmem h
  · exact hk (List.mem_singleton.1 h).symm

theorem Trails.overtakes (h : Trails turns j i) : Overtakes (turns ++ [j]) j i := by
  obtain ⟨front, back, rfl, hne, hi, hj, -⟩ := h
  exact ⟨front, back ++ [j], by simp, hne, hi, hj, List.mem_append_right _ (List.mem_singleton_self j)⟩

theorem trails_of_count (hi : turns.count i = 1) (hj : turns.count j = 1) (hne : j ≠ i) : Trails (turns ++ [i]) j i :=
  ⟨turns, [], rfl, hne, hi, hj, List.not_mem_nil⟩

end Orders

/-! ## What lasts of an answer -/

section Lasting

variable {ι : Type} [DecidableEq ι] {answers : Answers ι} {place : Place} {turns : List ι}
  {race : Race ι Failure OnboardingView Tables} {current changed : OnboardingSession} {i : ι}

/-- What an answer makes true of the session, every answer that finds it true keeps true, and only certain
answers can undo. -/
structure Lasts (answers : Answers ι) (place : Place) (i : ι) (holds : OnboardingSession → Prop)
    (undoes : ι → Prop) : Prop where
  made : ∀ {changed}, answers.Leaves place i changed → holds changed
  kept : ∀ {before changed : OnboardingSession}, before.status = .active →
    answers.Keeps before.messages changed.messages → holds before → holds changed
  renewed : ∀ {j changed}, answers.Leaves place j changed → ¬ undoes j → holds changed

/-- It is undone only by an answer that overtakes: none has, and those that will are known. -/
def Standing (race : Race ι Failure OnboardingView Tables) (turns : List ι) (current : OnboardingSession) (i : ι)
    (holds : OnboardingSession → Prop) (undoes : ι → Prop) : Prop :=
  (∃ j, race.Succeeds j ∧ undoes j ∧ Overtakes turns j i) ∨
    holds current ∧ ∀ j changed, race.left j = recording changed → Trails turns j i ∨ holds changed

/-- Answers under way: where each of them is, what the session is, and what lasts of those that have succeeded. -/
structure Underway (answers : Answers ι) (place : Place) (turns : List ι)
    (race : Race ι Failure OnboardingView Tables) (current : OnboardingSession) : Prop where
  holds : place.Holds race.state current
  begins : ∀ i, i ∉ turns → race.left i = answers.flow place.boardId i
  takes : ∀ i ∈ turns, race.Fails i ∨ race.Succeeds i ∨
    turns.count i = 1 ∧ ∃ changed, race.left i = recording changed ∧ answers.Leaves place i changed
  stands : ∀ i holds undoes, race.Succeeds i → Lasts answers place i holds undoes →
    Standing race turns current i holds undoes

omit [DecidableEq ι] in
/-- A call that has not begun is not about to write. -/
theorem flow_ne_recording (boardId : String) : answers.flow boardId i ≠ recording changed := by
  intro h
  cases h

variable {k : ι} {holds : OnboardingSession → Prop} {undoes : ι → Prop}

/-- A turn that writes nothing leaves standing what stands, if what it decides to write goes on with it. -/
theorem Standing.turn (h : Standing race turns current i holds undoes)
    (hnext : ∀ changed, (race.turn store k).left k = recording changed → holds current → holds changed) :
    Standing (race.turn store k) (turns ++ [k]) current i holds undoes := by
  rcases h with ⟨j, hj, hundoes, hovertakes⟩ | ⟨hcurrent, hothers⟩
  · exact .inl ⟨j, hj.turn, hundoes, hovertakes.append k⟩
  · refine .inr ⟨hcurrent, fun j changed hleft => ?_⟩
    by_cases hk : k = j
    · subst hk
      exact .inr (hnext changed hleft hcurrent)
    · rw [Race.left_turn_of_ne (Ne.symm hk)] at hleft
      exact (hothers j changed hleft).imp_left (·.append hk)

/-- An answer that is written leaves standing what stands, unless it overtakes and undoes it. -/
theorem Standing.written (h : Standing race turns current i holds undoes) (hlasts : Lasts answers place i holds undoes)
    (hleft : race.left k = recording changed) (hleaves : answers.Leaves place k changed)
    (hk : (race.turn store k).Succeeds k) : Standing (race.turn store k) (turns ++ [k]) changed i holds undoes := by
  rcases h with ⟨j, hj, hundoes, hovertakes⟩ | ⟨-, hothers⟩
  · exact .inl ⟨j, hj.turn, hundoes, hovertakes.append k⟩
  · -- Either the answer that is written undoes it, and then it trails, or it has it too.
    have hchanged : (undoes k ∧ Trails turns k i) ∨ holds changed := by
      by_cases hundoes : undoes k
      · exact (hothers k changed hleft).imp_left fun htrails => ⟨hundoes, htrails⟩
      · exact .inr (hlasts.renewed hleaves hundoes)
    rcases hchanged with ⟨hundoes, htrails⟩ | hchanged
    · exact .inl ⟨k, hk, hundoes, htrails.overtakes⟩
    · refine .inr ⟨hchanged, fun j other hleft' => ?_⟩
      by_cases hjk : k = j
      · subst hjk
        obtain ⟨view, hdone⟩ := hk
        cases hdone.symm.trans hleft'
      · rw [Race.left_turn_of_ne (Ne.symm hjk)] at hleft'
        exact (hothers j other hleft').imp_left (·.append hjk)

namespace Underway

variable (h : Underway answers place turns race current)
include h

/-- A call that is about to write has taken one turn. -/
theorem count_of_recording (hleft : race.left i = recording changed) : turns.count i = 1 := by
  by_cases hi : i ∈ turns
  · rcases h.takes i hi with ⟨e, hdone⟩ | ⟨view, hdone⟩ | ⟨hcount, -⟩
    · cases hdone.symm.trans hleft
    · cases hdone.symm.trans hleft
    · exact hcount
  · exact absurd ((h.begins i hi).symm.trans hleft) (flow_ne_recording _)

/-- What an answer makes true stands when it is written. -/
theorem standing_made (hlasts : Lasts answers place k holds undoes) (hleft : race.left k = recording changed)
    (hleaves : answers.Leaves place k changed) (hk : (race.turn store k).Succeeds k) :
    Standing (race.turn store k) (turns ++ [k]) changed k holds undoes := by
  refine .inr ⟨hlasts.made hleaves, fun j other hleft' => .inl ?_⟩
  have hne : j ≠ k := by
    rintro rfl
    obtain ⟨view, hdone⟩ := hk
    cases hdone.symm.trans hleft'
  rw [Race.left_turn_of_ne hne] at hleft'
  exact trails_of_count (h.count_of_recording hleft) (h.count_of_recording hleft') hne

/-- A turn of one call leaves the others where they are. -/
theorem of_turn {next : OnboardingSession} (hholds : place.Holds (race.turn store k).state next)
    (htakes : (race.turn store k).Fails k ∨ (race.turn store k).Succeeds k ∨ (turns ++ [k]).count k = 1 ∧
      ∃ changed, (race.turn store k).left k = recording changed ∧ answers.Leaves place k changed)
    (hstands : ∀ i holds undoes, (race.turn store k).Succeeds i → Lasts answers place i holds undoes →
      Standing (race.turn store k) (turns ++ [k]) next i holds undoes) :
    Underway answers place (turns ++ [k]) (race.turn store k) next := by
  refine ⟨hholds, fun i hi => ?_, fun i hi => ?_, hstands⟩
  · rw [List.mem_append, List.mem_singleton, not_or] at hi
    rw [Race.left_turn_of_ne hi.2]
    exact h.begins i hi.1
  · by_cases hik : i = k
    · exact hik ▸ htakes
    · have hmem : i ∈ turns := (List.mem_append.1 hi).resolve_right fun hi => hik (List.mem_singleton.1 hi)
      rcases h.takes i hmem with hfails | hsucceeds | ⟨hcount, hleft⟩
      · exact .inl hfails.turn
      · exact .inr (.inl hsucceeds.turn)
      · refine .inr (.inr ⟨?_, ?_⟩)
        · rw [List.count_append, hcount, List.count_singleton, if_neg (by simpa using Ne.symm hik)]
        · rwa [Race.left_turn_of_ne hik]

/-- A call other than the one that takes a turn has succeeded before, if it has. -/
theorem stands_of_ne (hik : i ≠ k) (hi : (race.turn store k).Succeeds i) (hlasts : Lasts answers place i holds undoes) :
    Standing race turns current i holds undoes := by
  obtain ⟨view, hdone⟩ := hi
  rw [Race.left_turn_of_ne hik] at hdone
  exact h.stands i holds undoes ⟨view, hdone⟩ hlasts

/-- A turn of a call that has ended. -/
theorem turn_idles (hk : race.Fails k ∨ race.Succeeds k) :
    Underway answers place (turns ++ [k]) (race.turn store k) current := by
  obtain ⟨result, hdone⟩ : ∃ result, race.left k = .done result := by
    rcases hk with ⟨e, hdone⟩ | ⟨view, hdone⟩ <;> exact ⟨_, hdone⟩
  have hsame : race.turn store k = race := Race.turn_of_done hdone
  refine h.of_turn (hsame.symm ▸ h.holds) ?_ fun i holds undoes hi hlasts => ?_
  · rw [hsame]
    exact hk.imp_right .inl
  · rw [hsame] at hi
    refine (h.stands i holds undoes hi hlasts).turn fun changed hleft => ?_
    rw [hsame, hdone] at hleft
    cases hleft

variable (halone : place.Alone)
include halone

/-- The first turn of an answer. -/
theorem turn_begins (hk : k ∉ turns) : Underway answers place (turns ++ [k]) (race.turn store k) current := by
  obtain ⟨hrows, hfinds⟩ := turn_finds race k halone h.holds (h.begins k hk)
  refine h.of_turn (h.holds.congr hrows) ?_ fun i holds undoes hi hlasts => ?_
  · refine hfinds.imp_right fun ⟨changed, hleft, _, hleaves, _⟩ => .inr ⟨?_, changed, hleft, hleaves⟩
    rw [List.count_append, List.count_eq_zero_of_not_mem hk, List.count_singleton_self]
  · have hik : i ≠ k := by
      rintro rfl
      obtain ⟨view, hdone⟩ := hi
      rcases hfinds with ⟨e, hfailed⟩ | ⟨changed, hleft, -⟩
      · cases hfailed.symm.trans hdone
      · cases hleft.symm.trans hdone
    refine (h.stands_of_ne hik hi hlasts).turn fun other hother hcurrent => ?_
    rcases hfinds with ⟨e, hfailed⟩ | ⟨changed, hleft, hactive, -, hkeeps⟩
    · cases hfailed.symm.trans hother
    · obtain rfl := recording_injective (hleft.symm.trans hother)
      exact hlasts.kept hactive hkeeps hcurrent

/-- The second turn of an answer. -/
theorem turn_ends (hleft : race.left k = recording changed) (hleaves : answers.Leaves place k changed) :
    ∃ next, Underway answers place (turns ++ [k]) (race.turn store k) next := by
  rcases turn_records race k halone h.holds hleaves hleft with ⟨⟨e, hfailed⟩, hrows⟩ | ⟨hsucceeds, hholds⟩
  · refine ⟨current, h.of_turn (h.holds.congr hrows) (.inl ⟨e, hfailed⟩) fun i holds undoes hi hlasts => ?_⟩
    have hik : i ≠ k := by
      rintro rfl
      obtain ⟨view, hdone⟩ := hi
      cases hfailed.symm.trans hdone
    exact (h.stands_of_ne hik hi hlasts).turn fun other hother => nomatch hfailed.symm.trans hother
  · refine ⟨changed, h.of_turn hholds (.inr (.inl hsucceeds)) fun i holds undoes hi hlasts => ?_⟩
    by_cases hik : i = k
    · subst hik
      exact h.standing_made hlasts hleft hleaves hsucceeds
    · exact (h.stands_of_ne hik hi hlasts).written hlasts hleft hleaves hsucceeds

/-- Whatever turn comes next. -/
theorem turn (k : ι) : ∃ next, Underway answers place (turns ++ [k]) (race.turn store k) next := by
  by_cases hk : k ∈ turns
  · rcases h.takes k hk with hfails | hsucceeds | ⟨-, changed, hleft, hleaves⟩
    · exact ⟨current, h.turn_idles (.inl hfails)⟩
    · exact ⟨current, h.turn_idles (.inr hsucceeds)⟩
    · exact h.turn_ends halone hleft hleaves
  · exact ⟨current, h.turn_begins halone hk⟩

end Underway

omit [DecidableEq ι] in
theorem lasts_logged (i : ι) :
    Lasts answers place i (fun session => Logged session.messages (answers.entry i)) fun _ => True :=
  ⟨fun hleaves => hleaves.logged, fun _ hkeeps hlogged => hkeeps i hlogged, fun _ hnot => absurd trivial hnot⟩

omit [DecidableEq ι] in
/-- A session that is completed cannot be found, so only answers that had found it before can undo it. -/
theorem lasts_completed (hcompletes : answers.Completes i) : Lasts answers place i
    (fun session => session.status = .completed ∧ ∃ goal, session.draftGoal? = some goal)
    fun j => ¬ answers.Completes j := by
  have hmade : ∀ {j changed}, answers.Leaves place j changed → answers.Completes j →
      changed.status = .completed ∧ ∃ goal, changed.draftGoal? = some goal :=
    fun hleaves hj => ⟨(hleaves.completed hj).1, _, (hleaves.completed hj).2⟩
  refine ⟨fun hleaves => hmade hleaves hcompletes, fun hactive _ hclosed => ?_, fun hleaves hj =>
    hmade hleaves (not_not.1 hj)⟩
  cases hactive.symm.trans hclosed.1

/-- After any turns of any answers to a board with one active session, the message of every answer that has
succeeded and that none that has succeeded overtakes is in the log of the session; and if an answer that completes
has succeeded and none that has succeeded without completing overtakes it, then the session is completed and has a
draft goal. -/
theorem answers_after (answers : Answers ι) {start : Tables} {session : OnboardingSession} (halone : place.Alone)
    (hstart : place.Holds start session) (source : Entropy) (turns : List ι) :
    let reached := (answers.race place.boardId start source).after store turns
    ∃ final, place.Holds reached.state final ∧
      (∀ i, reached.Succeeds i → (∀ j, reached.Succeeds j → ¬ Overtakes turns j i) →
        Logged final.messages (answers.entry i)) ∧
      (∀ i, reached.Succeeds i → answers.Completes i →
        (∀ j, reached.Succeeds j → ¬ answers.Completes j → ¬ Overtakes turns j i) →
          final.status = .completed ∧ ∃ goal, final.draftGoal? = some goal) := by
  intro reached
  have hunderway : ∃ current, Underway answers place turns reached current := by
    refine Race.after_induction (P := fun turns race => ∃ current, Underway answers place turns race current) ?_
      (fun turns race k ⟨current, h⟩ => h.turn halone k) turns
    refine ⟨session, hstart, fun i _ => rfl, nofun, fun i holds undoes hi => ?_⟩
    obtain ⟨view, hdone⟩ := hi
    cases hdone
  obtain ⟨final, h⟩ := hunderway
  refine ⟨final, h.holds, fun i hi hfree => ?_, fun i hi hcompletes hfree => ?_⟩
  · rcases h.stands i _ _ hi (lasts_logged i) with ⟨j, hj, -, hovertakes⟩ | ⟨hlogged, -⟩
    · exact absurd hovertakes (hfree j hj)
    · exact hlogged
  · rcases h.stands i _ _ hi (lasts_completed hcompletes) with ⟨j, hj, hundoes, hovertakes⟩ | ⟨hclosed, -⟩
    · exact absurd hovertakes (hfree j hj hundoes)
    · exact hclosed

end Lasting

/-! ## A lounge -/

/-- A session of the first board that has no messages. -/
def chat : OnboardingSession :=
  ⟨"s1", "b1", .active, "[]", none, "2024-01-01", "2024-03-01"⟩

/-- A board with its lead and one session, behind some others. -/
def lounge (front : List OnboardingSession) : Tables where
  rows
    | "boards" => [Board.record ⟨"b1", "Home", "home", none, "", ""⟩]
    | "agents" => [lead.record]
    | "board_onboarding_sessions" => (front ++ [chat]).map OnboardingSession.record
    | _ => []
  calls := []
  fault? := none

/-- Two answers of the lead: that blue is fine, and what the goal is. -/
def replies : Answers Bool where
  actor _ := lead
  payload last := .object (if last then [("goal", .string "tidy"), ("status", .string "complete")]
    else [("answer", .string "blue")])
  now _ := "2024-01-02"

/-- The place of a session that stands alone. -/
def corner : Place :=
  ⟨[], [], "b1", "s1"⟩

theorem corner_alone : corner.Alone :=
  ⟨nofun, nofun⟩

theorem corner_holds : corner.Holds (lounge []) chat :=
  ⟨rfl, rfl, chat.record, rfl, chat.ofRecord?_record⟩

/-- One behind the other, both answers are in the log, and the session is completed with a goal. Where the answer that
completes has read before the other and writes behind it, it overtakes the other and is not overtaken: so it is in the
log, and the session is completed with a goal again. -/
theorem answers_after_replies :
    (∃ final,
      corner.Holds ((replies.race "b1" (lounge []) .counting).after store [false, false, true, true]).state final ∧
        (∀ i, Logged final.messages (replies.entry i)) ∧ final.status = .completed ∧
          ∃ goal, final.draftGoal? = some goal) ∧
    Overtakes [true, false, false, true] true false ∧
    ∃ final,
      corner.Holds ((replies.race "b1" (lounge []) .counting).after store [true, false, false, true]).state final ∧
        (∀ i, ((replies.race "b1" (lounge []) .counting).after store [true, false, false, true]).Succeeds i) ∧
        Logged final.messages (replies.entry true) ∧ final.status = .completed ∧
          ∃ goal, final.draftGoal? = some goal := by
  refine ⟨?_, by decide, ?_⟩
  · have hok : ∀ i, ((replies.race "b1" (lounge []) .counting).after store [false, false, true, true]).Succeeds i := by
      decide +kernel
    have hfree : ∀ i j, ¬ Overtakes [false, false, true, true] j i := by decide
    obtain ⟨final, hholds, hlogged, hclosed⟩ :=
      answers_after replies corner_alone corner_holds .counting [false, false, true, true]
    exact ⟨final, hholds, fun i => hlogged i (hok i) fun j _ => hfree i j,
      hclosed true (hok true) ⟨_, rfl, by decide⟩ fun j _ _ => hfree true j⟩
  · have hok : ∀ i, ((replies.race "b1" (lounge []) .counting).after store [true, false, false, true]).Succeeds i := by
      decide +kernel
    have hfree : ∀ j, ¬ Overtakes [true, false, false, true] j true := by decide
    obtain ⟨final, hholds, hlogged, hclosed⟩ :=
      answers_after replies corner_alone corner_holds .counting [true, false, false, true]
    exact ⟨final, hholds, hok, hlogged true (hok true) fun j _ => hfree j,
      hclosed true (hok true) ⟨_, rfl, by decide⟩ fun j _ _ => hfree j⟩

theorem not_logged_replies (i : Bool) : ¬ Logged (Json.array [replies.entry i]).render (replies.entry !i) := by
  intro hlogged
  have hmessages : OnboardingSession.messagesOf? (Json.array [replies.entry i]).render = some [replies.entry i] := by
    rw [messagesOf?_render]
    exact Json.mapM_eq_self fun message hmessage => List.mem_singleton.1 hmessage ▸ (replies.entry_plain i 125).reread
  obtain ⟨messages, hread, hmem⟩ := hlogged
  obtain rfl : messages = [replies.entry i] := Option.some.inj (hread.symm.trans hmessages)
  have hsame := congrArg Json.render (List.mem_singleton.1 hmem)
  revert hsame
  cases i <;> decide +kernel

/-- The sessions that are stored, as they are read. -/
def sessions (s : Tables) : List (Option OnboardingSession) :=
  (s.rows OnboardingSession.schema.table).map OnboardingSession.ofRecord?

/-- Both answers have succeeded, but the one that completes is in no log, and no session is completed. -/
def Lost (reached : Race Bool Failure OnboardingView Tables) : Prop :=
  (∀ i, reached.Succeeds i) ∧ ∀ session, some session ∈ sessions reached.state →
    ¬ Logged session.messages (replies.entry true) ∧ session.status = .active ∧ session.draftGoal? = none

/-- An answer that has found the session before another is written, and is written behind it, puts back the session
as it was. And where a row in front has the identifier of the session, answers are written in its place, so that
the next one finds the session as it was. -/
theorem answer_lost :
    (corner.Alone ∧ corner.Holds (lounge []) chat ∧
      Lost ((replies.race "b1" (lounge []) .counting).after store [false, true, true, false])) ∧
    Lost ((replies.race "b1" (lounge [{ chat with boardId := "b2", status := .completed }]) .counting).after store
      [true, true, false, false]) := by
  refine ⟨⟨corner_alone, corner_holds, by decide +kernel, fun session hsession => ?_⟩, by decide +kernel,
    fun session hsession => ?_⟩
  · have hsessions : sessions ((replies.race "b1" (lounge []) .counting).after store [false, true, true, false]).state =
        [some { chat with messages := (Json.array [replies.entry false]).render, updatedAt := "2024-01-02" }] := by
      decide +kernel
    rw [hsessions] at hsession
    cases List.mem_singleton.1 hsession
    exact ⟨not_logged_replies false, rfl, rfl⟩
  · have hsessions : sessions ((replies.race "b1" (lounge [{ chat with boardId := "b2", status := .completed }])
        .counting).after store [true, true, false, false]).state =
          [some { chat with messages := (Json.array [replies.entry false]).render, updatedAt := "2024-01-02" },
            some chat] := by
      decide +kernel
    rw [hsessions] at hsession
    rcases List.mem_cons.1 hsession with hsession | hsession
    · cases hsession
      exact ⟨not_logged_replies false, rfl, rfl⟩
    · cases List.mem_singleton.1 hsession
      refine ⟨fun ⟨messages, hread, hmem⟩ => ?_, rfl, rfl⟩
      obtain rfl : messages = [] := Option.some.inj (hread.symm.trans (messagesOf?_render []))
      cases hmem

end Taskboard.Endpoint
