/-
What is written is read back. Every entity is held as a row with just the columns of its table, and the row stands
for that entity again (`Entity.decode?_encode`). Where no failure waits, an entity that is added is found by its
identifier from then on, one that takes its place is found after that, and reads for other identifiers give what they
gave (`entities_recalled`).
-/
import Taskboard.Proofs.Query.Shortcut
import Taskboard.Proofs.Storage.Arrangement
import Taskboard.Proofs.Storage.Batches
import Taskboard.Proofs.Storage.Carriage

namespace Taskboard

open Tables

/-! ## Rows that stand for entities -/

namespace Entity

/-- The confidence of an approval fits into 64 bits; of other entities there is nothing to say. -/
def Fits : (entity : Entity) → entity.Value → Prop
  | .approval, value => signedMin ≤ Approval.confidence value ∧ Approval.confidence value ≤ signedMax
  | _, _ => True

variable {entity : Entity} {value : entity.Value}

theorem decode?_record (h : entity.Fits value) : entity.model.decode? (.object (entity.record value)) = some value := by
  cases entity with
  | board => exact Board.ofRecord?_record value
  | task => exact Task.ofRecord?_record value
  | comment => exact TaskComment.ofRecord?_record value
  | agent => exact Agent.ofRecord?_record value
  | approval => exact Approval.ofRecord?_record h.1 h.2
  | memory => exact MemoryEntry.ofRecord?_record value
  | session => exact OnboardingSession.ofRecord?_record value

/-- What an entity is encoded to stands for that entity. -/
theorem decode?_encode (h : entity.Fits value) : entity.model.decode? (entity.model.encode value) = some value := by
  rw [encode_eq]
  exact decode?_record h

/-- The row of an entity has each column of its table once, and no other. -/
theorem perm_names_record (value : entity.Value) :
    ((entity.record value).map Prod.fst).Perm entity.model.schema.fields := by
  rw [names_record]
  exact List.perm_insertionSort _ _

end Entity

/-- A number is read as a flag that is set unless the number is zero. -/
theorem Record.flag?_of_number {row : Record} {name : String} {number : Json} {units : Int} {flag : Bool}
    (hlookup : row.lookup name = some number) (hunits : number.units? = some units)
    (hzero : units = 0 ↔ flag = false) : row.flag? name = some flag := by
  have hflag : ∀ {zero : Prop} [Decidable zero], (zero ↔ flag = false) → (!decide zero) = flag := by
    intro zero _ hiff
    cases flag <;> simp_all
  unfold flag?
  rw [hlookup]
  cases number with
  | int n =>
    obtain rfl := Option.some.inj hunits
    have hn : n = 0 ↔ flag = false := by
      rw [← hzero, Int.mul_eq_zero, or_iff_left (by decide +kernel)]
    exact congrArg some (hflag hn)
  | float x =>
    obtain rfl := Option.some.inj hunits
    have hx : x.units = 0 ↔ flag = false := by
      rw [← hzero, ← Binary64.natAbs_signedUnits, Int.natAbs_eq_zero]
    exact congrArg some (hflag hx)
  | _ => cases hunits

/-- The row of an agent stands for it also where its flag is a number that is zero just when the flag is not set. -/
theorem Agent.decode?_numberedFlag (agent : Agent) {number : Json} {units : Int} (hunits : number.units? = some units)
    (hzero : units = 0 ↔ agent.isBoardLead = false) :
    Agent.model.decode? (.object (Record.insert "is_board_lead" number agent.record)) = some agent := by
  -- Of the columns that are read only the flag is another one.
  have hrow : ∀ name ≠ "is_board_lead",
      (Record.insert "is_board_lead" number agent.record).lookup name = agent.record.lookup name := by
    intro name hname
    rw [Record.lookup_insert, if_neg hname]
  have hflag : (Record.insert "is_board_lead" number agent.record).flag? "is_board_lead" = some agent.isBoardLead := by
    refine Record.flag?_of_number ?_ hunits hzero
    rw [Record.lookup_insert, if_pos rfl]
  have hsame : Agent.ofRecord? (Record.insert "is_board_lead" number agent.record) = Agent.ofRecord? agent.record := by
    simp only [Agent.ofRecord?, hflag, Record.text?, Record.optionalText?, Record.optional?, Record.value?, hrow, ne_eq,
      String.reduceEq, not_false_eq_true]
    rfl
  exact hsame.trans agent.ofRecord?_record

/-! ## Reads -/

/-- Where no failure waits, reads depend only on the rows that meet their conditions. -/
theorem Way.run_congr {α : Type} {model : Model α} {plan : Plan} {s t : Tables} (hs : s.fault? = none)
    (ht : t.fault? = none) (h : s.rowsMeeting plan = t.rowsMeeting plan) (way : Way) (source source' : Entropy) :
    ((way.flow model plan).run store s source).1 = ((way.flow model plan).run store t source').1 := by
  have hall : ∀ plan : Plan, s.rowsMeeting plan = t.rowsMeeting plan →
      ((model.all plan).run store s source).1 = ((model.all plan).run store t source').1 := by
    intro plan h
    have hanswer : s.answer plan = t.answer plan := by
      rw [answer, h]
      rfl
    unfold Model.all Plan.ask
    split
    · rfl
    · split
      · rfl
      · simp only [Flow.run, store, select_of_quiet hs, select_of_quiet ht, hanswer]
  have hfirst : ((model.first plan).run store s source).1 = ((model.first plan).run store t source').1 := by
    rw [run_first, run_first, hall (plan.take 1) h]
  cases way with
  | all => exact hall plan h
  | first => exact hfirst
  | count =>
    show (plan.count.run store s source).1 = (plan.count.run store t source').1
    unfold Plan.count Plan.ask
    split
    · rfl
    · split
      · rfl
      · simp only [Flow.run, store, count_of_quiet hs, count_of_quiet ht, h]
  | any =>
    show ((model.hasAny plan).run store s source).1 = ((model.hasAny plan).run store t source').1
    rw [run_hasAny, run_hasAny, hfirst]

/-! ## Conditions on identifiers -/

theorem Json.looselyEqual_of_string {s : String} {other : Json} :
    (Json.string s).looselyEqual other = true ↔ other = .string s := by
  cases other with
  | string t => rw [looselyEqual_string, decide_eq_true_iff, string.injEq, eq_comm]
  | _ => simp [looselyEqual, quantity?, number?, same]

/-- A row with an identifier meets no condition on another one. -/
theorem Predicate.not_holds_is {row : Record} {field key : String} (hrow : row.text? field = some key) {id : Json}
    (hid : id ≠ .string key) : (Predicate.is field id).holds row = false := by
  have hvalue : row.value? field = some (.string key) := Record.value?_eq_string_iff.2 hrow
  cases hnull : id.isNull with
  | true =>
    rw [Predicate.is, if_pos hnull, holds, hvalue]
    rfl
  | false =>
    rw [holds_is hvalue hnull, Bool.eq_false_iff]
    exact mt Json.looselyEqual_of_string.1 hid

theorem Schema.predicates_withId (schema : Schema) (id : Json) :
    (schema.withId id).predicates = [.is schema.idField id] := by
  unfold withId filter Predicate.is
  split <;> rfl

namespace Entity

variable {entity : Entity} {value : entity.Value} {tables : Tables}

/-- A row of the kind of an entity meets the condition on an identifier when it has it. -/
theorem allHold_withId (id : Json) (row : Record) :
    Predicate.allHold row (entity.model.schema.withId id).predicates = (Predicate.is "id" id).holds row := by
  rw [Schema.predicates_withId, idField_eq, Predicate.allHold, Predicate.allHold, Bool.and_true]

theorem rowsMeeting_withId (tables : Tables) (id : Json) : tables.rowsMeeting (entity.model.schema.withId id) =
    (tables.rows entity.table).filter ((Predicate.is "id" id).holds ·) :=
  List.filter_congr fun row _ => allHold_withId id row

/-- The last row of a table has no part in reads for other identifiers. -/
theorem rowsMeeting_other {rest : List Record} (hrows : tables.rows entity.table = rest ++ [entity.record value])
    {id : Json} (hid : id ≠ .string (entity.key value)) :
    tables.rowsMeeting (entity.model.schema.withId id) = rest.filter ((Predicate.is "id" id).holds ·) := by
  have hother := Predicate.not_holds_is (entity.text?_record value) hid
  rw [rowsMeeting_withId, hrows, List.filter_append, List.filter_cons_of_neg (by simp [hother]), List.filter_nil,
    List.append_nil]

/-- Where no other row has its identifier, an entity is found by it. -/
theorem first_withId (hfits : entity.Fits value) (hquiet : tables.fault? = none) {rest : List Record}
    (hrows : tables.rows entity.table = rest ++ [entity.record value])
    (hrest : ∀ row ∈ rest, row.text? "id" ≠ some (entity.key value)) (source : Entropy) :
    ((entity.model.first (entity.model.schema.withId (.string (entity.key value)))).run store tables source).1 =
      .ok (some value) := by
  have hmeeting : tables.rowsMeeting (entity.model.schema.withId (.string (entity.key value))) =
      [entity.record value] := by
    have hholds : ∀ row : Record, (Predicate.is "id" (.string (entity.key value))).holds row =
        decide (row.text? "id" = some (entity.key value)) := by
      intro row
      rw [Bool.eq_iff_iff, decide_eq_true_iff]
      exact Predicate.holds_equals_string
    have hothers : rest.filter (fun row => decide (row.text? "id" = some (entity.key value))) = [] :=
      List.filter_eq_nil_iff.2 fun row hrow => by simpa using hrest row hrow
    simp only [rowsMeeting_withId, hrows, hholds, List.filter_append, hothers, List.nil_append]
    exact List.filter_cons_of_pos (decide_eq_true (entity.text?_record value))
  -- There is one such row, so the limit of one cuts nothing off.
  have hanswer : tables.answer ((entity.model.schema.withId (.string (entity.key value))).take 1) =
      [entity.record value] := by
    rw [answer_take tables rfl, answer_eq_sorted tables rfl rfl, hmeeting]
    exact congrArg (List.take 1) (sorted_nil _)
  have hdecode : entity.model.decodeAll
      ((tables.answer ((entity.model.schema.withId (.string (entity.key value))).take 1)).map .object) =
        .ok [value] := by
    rw [hanswer, Model.decodeAll_eq_ok_iff]
    exact congrArg (fun x => [x]) (decode?_record hfits)
  have hvalid : ((entity.model.schema.withId (.string (entity.key value))).take 1).validate = .ok () := by
    cases entity <;> rfl
  rw [Model.run_first_of_quiet hquiet hvalid rfl hdecode]
  rfl

end Entity

/-! ## Savings -/

/-- An entity is found by its identifier, reads for other identifiers give what they gave before, and no other table has
changed. -/
structure Recalled (before after : Tables) (entity : Entity) (value : entity.Value) : Prop where
  quiet : after.fault? = none
  found (source : Entropy) :
    ((entity.model.first (entity.model.schema.withId (.string (entity.key value)))).run store after source).1 =
      .ok (some value)
  others (way : Way) {id : Json} (hid : id ≠ .string (entity.key value)) (source source' : Entropy) :
    ((way.flow entity.model (entity.model.schema.withId id)).run store after source).1 =
      ((way.flow entity.model (entity.model.schema.withId id)).run store before source').1
  elsewhere {table : String} (htable : table ≠ entity.table) : after.rows table = before.rows table

/-- Where no failure waits, a saving is carried out, and none waits afterwards. -/
theorem Saving.run_of_quiet (saving : Saving) {tables : Tables} (hquiet : tables.fault? = none) (source : Entropy) :
    ∃ after : Tables, after.fault? = none ∧ after.rows = (tables.carryOut saving.write).rows ∧
      (saving.entity.model.send saving.kind saving.value).run store tables source = (.ok (), after, source) := by
  obtain ⟨after, hbatch, hrows⟩ := batch_of_quiet hquiet [saving]
  have hafter := batch_quiet hquiet ([saving].map Saving.write)
  rw [hbatch] at hafter
  refine ⟨after, hafter, hrows, ?_⟩
  rw [run_send]
  exact congrArg (fun ended => (ended.1, ended.2, source)) hbatch

namespace Saving

variable (saving : Saving) {before after : Tables}

/-- A saving leaves its entity last in its table, behind the rows that meet conditions on other identifiers. -/
theorem recalled (hfits : saving.entity.Fits saving.value) (hbefore : before.fault? = none)
    (hafter : after.fault? = none) {rest : List Record}
    (hrest : ∀ row ∈ rest, row.text? "id" ≠ some (saving.entity.key saving.value))
    (hmeeting : ∀ id, id ≠ .string (saving.entity.key saving.value) →
      before.rowsMeeting (saving.entity.model.schema.withId id) = rest.filter ((Predicate.is "id" id).holds ·))
    (hrows : after.rows saving.entity.table = rest ++ [saving.entity.record saving.value])
    (hsaved : after.rows = (before.carryOut saving.write).rows) :
    Recalled before after saving.entity saving.value where
  quiet := hafter
  found := Entity.first_withId hfits hafter hrows hrest
  others way id hid source source' := by
    refine Way.run_congr hafter hbefore ?_ way source source'
    rw [hmeeting id hid, Entity.rowsMeeting_other hrows hid]
  elsewhere htable := by
    rw [hsaved]
    exact rows_carryOut_of_ne htable

end Saving

section

variable {entity : Entity} {tables : Tables}

/-- An entity that is added is behind the rows that its table had. -/
theorem inserted_recalled {x : entity.Value} (hfits : entity.Fits x) (hquiet : tables.fault? = none)
    (hnew : ¬ tables.Has entity.table (entity.key x)) (source : Entropy) : ∃ inserted : Tables,
      (entity.model.insert x).run store tables source = (.ok (), inserted, source) ∧
      inserted.rows entity.table = tables.rows entity.table ++ [entity.record x] ∧
      Recalled tables inserted entity x := by
  obtain ⟨inserted, hinserted, hsaved, hrun⟩ := Saving.run_of_quiet ⟨.insert, entity, x⟩ hquiet source
  have hrows : inserted.rows entity.table = tables.rows entity.table ++ [entity.record x] := by
    rw [hsaved]
    exact rows_added
  have hrest : ∀ row ∈ tables.rows entity.table, row.text? "id" ≠ some (entity.key x) :=
    fun row hrow hid => hnew ⟨row, hrow, hid⟩
  exact ⟨inserted, hrun, hrows, Saving.recalled ⟨.insert, entity, x⟩ hfits hquiet hinserted hrest
    (fun id _ => Entity.rowsMeeting_withId tables id) hrows hsaved⟩

/-- An entity that takes the place of the one with its identifier is where that one was. -/
theorem updated_recalled {x y : entity.Value} (hfits : entity.Fits y) (hkey : entity.key y = entity.key x)
    (hquiet : tables.fault? = none) {rest : List Record}
    (hrows : tables.rows entity.table = rest ++ [entity.record x])
    (hrest : ∀ row ∈ rest, row.text? "id" ≠ some (entity.key x)) (source : Entropy) : ∃ updated : Tables,
      (entity.model.update y).run store tables source = (.ok (), updated, source) ∧
      updated.rows entity.table = rest ++ [entity.record y] ∧ Recalled tables updated entity y := by
  obtain ⟨updated, hupdated, hsaved, hrun⟩ := Saving.run_of_quiet ⟨.update, entity, y⟩ hquiet source
  have hid : (entity.record y).text? entity.model.schema.idField = some (entity.key y) := by
    rw [entity.idField_eq, entity.text?_record]
  have hreplaced : updated.rows entity.table = rest ++ [entity.record y] := by
    rw [hsaved]
    refine (rows_carryOut_update hid).trans ?_
    rw [entity.idField_eq, hkey]
    exact (congrArg _ hrows).trans (replaceFirst_append hrest (entity.text?_record x))
  rw [← hkey] at hrest
  refine ⟨updated, hrun, hreplaced, Saving.recalled ⟨.update, entity, y⟩ hfits hquiet hupdated hrest ?_
    hreplaced hsaved⟩
  -- Reads for other identifiers saw only the rows in front before, too.
  intro id hother
  rw [hkey] at hother
  exact Entity.rowsMeeting_other hrows hother

end

/-- Every entity is held as a row with just the columns of its table, each of them once, and that row stands for the
entity; for an agent so does the row with any number for the flag that is zero just when the flag is not set. Where no
failure waits and no row has its identifier, an entity that is added comes behind the rows of its table and is found by
its identifier; one that takes its place is found after that, in the same place. Reads for other identifiers give what
they gave before, and no other table changes. -/
theorem entities_recalled :
    (∀ (entity : Entity) (x : entity.Value), entity.Fits x →
      entity.model.encode x = .object (entity.record x) ∧
      ((entity.record x).map Prod.fst).Perm entity.model.schema.fields ∧
      entity.model.decode? (entity.model.encode x) = some x) ∧
    (∀ (agent : Agent) (number : Json) (units : Int), number.units? = some units →
      (units = 0 ↔ agent.isBoardLead = false) →
      Agent.model.decode? (.object (Record.insert "is_board_lead" number agent.record)) = some agent) ∧
    ∀ (entity : Entity) (x y : entity.Value), entity.Fits x → entity.Fits y → entity.key y = entity.key x →
      ∀ tables : Tables, tables.fault? = none → ¬ tables.Has entity.table (entity.key x) → ∀ source : Entropy,
      ∃ inserted : Tables, (entity.model.insert x).run store tables source = (.ok (), inserted, source) ∧
        inserted.rows entity.table = tables.rows entity.table ++ [entity.record x] ∧
        Recalled tables inserted entity x ∧
        ∀ between : Tables, between.fault? = none → between.rows entity.table = inserted.rows entity.table →
          ∀ source' : Entropy, ∃ updated : Tables,
            (entity.model.update y).run store between source' = (.ok (), updated, source') ∧
            updated.rows entity.table = tables.rows entity.table ++ [entity.record y] ∧
            Recalled between updated entity y := by
  refine ⟨?_, fun agent number units => agent.decode?_numberedFlag, ?_⟩
  · intro entity x hfits
    exact ⟨entity.encode_eq x, entity.perm_names_record x, Entity.decode?_encode hfits⟩
  · intro entity x y hx hy hkey tables hquiet hnew source
    obtain ⟨inserted, hrun, hrows, hinserted⟩ := inserted_recalled hx hquiet hnew source
    refine ⟨inserted, hrun, hrows, hinserted, ?_⟩
    intro between hbetween hsame source'
    exact updated_recalled hy hkey hbetween (hsame.trans hrows) (fun row hrow hid => hnew ⟨row, hrow, hid⟩) source'

/-- The board that is added, with a name that it is given later. -/
def renamedLab : Board :=
  { lab with name := "Laboratory" }

/-- A lead whose flag a database gives back as a number. -/
def scout : Agent where
  id := "a1"
  boardId? := some "b1"
  name := "Scout"
  status := "online"
  isBoardLead := true
  tokenHash? := none
  lastSeenAt? := none
  createdAt := ""
  updatedAt := ""

theorem entities_recalled_shelf : shelf.fault? = none ∧ ¬ shelf.Has Entity.board.table (Entity.board.key lab) ∧
    Agent.model.decode? (.object (Record.insert "is_board_lead" (.int 1) scout.record)) = some scout ∧
    ∃ inserted updated : Tables,
      (Board.model.insert lab).run store shelf .counting = (.ok (), inserted, .counting) ∧
      Recalled shelf inserted .board lab ∧
      (Board.model.update renamedLab).run store inserted .counting = (.ok (), updated, .counting) ∧
      (updated.rows "boards").map (·.text? "name") = [some "Home", some "Away", some "Laboratory"] ∧
      Recalled inserted updated .board renamedLab := by
  obtain ⟨-, hnumbered, hsaved⟩ := entities_recalled
  obtain ⟨inserted, hinsert, -, hinserted, hupdates⟩ :=
    hsaved .board lab renamedLab trivial trivial rfl shelf rfl lab_isNew .counting
  obtain ⟨updated, hupdate, hrows, hupdated⟩ := hupdates inserted hinserted.quiet rfl .counting
  refine ⟨rfl, lab_isNew, hnumbered scout (.int 1) _ rfl ?_, inserted, updated, hinsert, hinserted, hupdate, ?_,
    hupdated⟩
  · exact ⟨fun h => absurd h (by decide +kernel), fun h => absurd h (by decide)⟩
  · exact (congrArg (List.map (·.text? "name")) hrows).trans rfl

end Taskboard
