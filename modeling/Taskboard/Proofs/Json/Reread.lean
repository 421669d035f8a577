/-
JSON text that was written, read again. Reading the text of a value gives what `reread` gives for the value
(`readValue_write`, `parse?_render`), so what happens to a value that is written and read is said without its
text. A value without numbers is read as itself (`Plain.reread`).
-/
import Taskboard.Proofs.Json.Scalars
import Mathlib.Data.List.Forall2

namespace Taskboard.Json

/-! ## Reading without the text -/

/-- What a value is read as when its text is read with arrays and objects nested at most `depth` deep. -/
def reread : Nat → Json → Option Json
  | _, .null => some .null
  | _, .bool flag => some (.bool flag)
  | _, .int n => (Numeral.ofInt n).value?
  | _, .float x => (Numeral.ofDouble x).value?
  | _, .string text => some (.string text)
  | 0, .array _ | 0, .object _ => none
  | depth + 1, .array items => (items.mapM (reread depth)).map .array
  | depth + 1, .object fields =>
    (fields.mapM fun field => (reread depth field.2).map fun value => (field.1, value)).map fun fields =>
      .object (Record.ofFields fields)

/-! ## The front of a text -/

theorem skipGap_cons {c : Char} (h : isGap c = false) (cs : List Char) : skipGap (c :: cs) = c :: cs :=
  List.dropWhile_cons_of_neg (by simp [h])

/-- A character that may begin the text of a number. -/
def BeginsNumber (c : Char) : Prop :=
  c = '-' ∨ c.isDigit = true

theorem BeginsNumber.not_mem {c : Char} (h : BeginsNumber c) :
    c ∉ ['"', ' ', '\t', '\n', '\r', '[', ']', '{', '}', 'n', 't', 'f'] := by
  intro hmem
  simp only [List.mem_cons, List.not_mem_nil, or_false] at hmem
  unfold BeginsNumber at h
  rcases hmem with rfl | rfl | rfl | rfl | rfl | rfl | rfl | rfl | rfl | rfl | rfl | rfl <;> revert h <;> decide

theorem Numeral.text_cons {numeral : Numeral} (h : numeral.Sound) : ∃ c cs, numeral.text = c :: cs ∧ BeginsNumber c := by
  unfold Numeral.text Numeral.magnitude
  cases numeral.negative with
  | true => exact ⟨'-', _, rfl, .inl rfl⟩
  | false =>
    obtain ⟨c, cs, hwhole⟩ := List.exists_cons_of_ne_nil h.whole.1
    exact ⟨c, _, by rw [hwhole]; rfl, .inr (h.whole.2 c (hwhole ▸ List.mem_cons_self ..))⟩

/-- The text of a number is read as a number, wherever a value may stand. -/
theorem readValue_numeral {numeral : Numeral} (h : numeral.Sound) {rest : List Char} (hrest : Stops rest)
    (limit depth : Nat) : readValue limit depth (numeral.text ++ rest) = numeral.value?.map (·, rest) := by
  obtain ⟨c, cs, htext, hc⟩ := Numeral.text_cons h
  have hnot := hc.not_mem
  have hgap : isGap c = false := by
    unfold isGap
    simp_all
  rw [← Numeral.read hrest h, htext, List.cons_append]
  have hscalar : readScalar (c :: (cs ++ rest)) = readNumber (c :: (cs ++ rest)) := by
    unfold readScalar
    split <;> simp_all
  cases depth with
  | zero =>
    unfold readValue
    rw [skipGap_cons hgap, hscalar]
  | succ depth =>
    unfold readValue
    rw [skipGap_cons hgap]
    split <;> simp_all

theorem write_int (n : Int) : (Numeral.ofInt n).text = (Json.int n).write :=
  Numeral.ofInt_text n

theorem write_float (x : Binary64) : (Numeral.ofDouble x).text = (Json.float x).write :=
  Numeral.ofDouble_text x

/-- The text of a value begins with a character that is no blank and closes nothing. -/
theorem write_cons (value : Json) : ∃ c cs, value.write = c :: cs ∧ isGap c = false ∧ c ≠ ']' ∧ c ≠ '}' := by
  have hnumeral : ∀ numeral : Numeral, numeral.Sound →
      ∃ c cs, numeral.text = c :: cs ∧ isGap c = false ∧ c ≠ ']' ∧ c ≠ '}' := by
    intro numeral hsound
    obtain ⟨c, cs, htext, hc⟩ := Numeral.text_cons hsound
    have hnot := hc.not_mem
    refine ⟨c, cs, htext, ?_, ?_, ?_⟩
    · unfold isGap
      simp_all
    all_goals
      rintro rfl
      exact hnot (by decide)
  cases value with
  | null => exact ⟨'n', _, rfl, by decide⟩
  | bool flag => cases flag <;> exact ⟨_, _, rfl, by decide⟩
  | int n => exact write_int n ▸ hnumeral _ (Numeral.ofInt_sound n)
  | float x => exact write_float x ▸ hnumeral _ (Numeral.ofDouble_sound x)
  | string text => exact ⟨'"', _, rfl, by decide⟩
  | array items => exact ⟨'[', _, rfl, by decide⟩
  | object fields => exact ⟨'{', _, rfl, by decide⟩

theorem stops_cons {c : Char} (h : c = ',' ∨ c = ']' ∨ c = '}') (rest : List Char) : Stops (c :: rest) := by
  intro d hd
  obtain rfl : c = d := Option.some.inj hd
  rcases h with rfl | rfl | rfl <;> decide

/-! ## Parts -/

section Parts

variable {read : List Char → Reading Json} {again : Json → Option Json}

/-- Reading the text of a value, whatever comes behind it, gives what `again` gives for the value. -/
def Rereads (read : List Char → Reading Json) (again : Json → Option Json) (value : Json) : Prop :=
  ∀ rest, Stops rest → read (value.write ++ rest) = (again value).map (·, rest)

/-- The items of an array are read one by one. -/
theorem readItems_write {item : Json} {items : List Json} (h : ∀ value ∈ item :: items, Rereads read again value)
    {n : Nat} (hn : items.length < n) (rest : List Char) :
    readItems read n (writeItems (item :: items) ++ rest) = ((item :: items).mapM again).map (·, rest) := by
  -- What follows an item, a comma or the closing bracket, does not go on with it.
  induction items generalizing item n with
  | nil =>
    cases n with
    | zero => contradiction
    | succ n =>
      have hitem := h item (List.mem_singleton_self item) (']' :: rest) (stops_cons (.inr (.inl rfl)) _)
      simp only [writeItems, writeMoreItems, List.append_assoc, List.cons_append, List.nil_append]
      unfold readItems
      dsimp only
      rw [hitem]
      cases hagain : again item with
      | none => simp [hagain]
      | some first => simp [hagain, skipGap_cons (show isGap ']' = false by decide)]
  | cons next items ih =>
    cases n with
    | zero => contradiction
    | succ n =>
      have hitem := h item (List.mem_cons_self ..) (',' :: (writeItems (next :: items) ++ rest)) (stops_cons (.inl rfl) _)
      have hmore := ih (fun value hvalue => h value (List.mem_cons_of_mem _ hvalue)) (Nat.lt_of_succ_lt_succ hn)
      have htext : writeItems (item :: next :: items) ++ rest =
          item.write ++ (',' :: (writeItems (next :: items) ++ rest)) := by
        simp only [writeItems, writeMoreItems, List.append_assoc, List.cons_append]
      rw [htext]
      unfold readItems
      dsimp only
      rw [hitem]
      cases hagain : again item with
      | none => simp [hagain]
      | some first =>
        rw [List.mapM_cons, hagain]
        simp only [Option.map_some, skipGap_cons (show isGap ',' = false by decide), hmore]
        cases (next :: items).mapM again <;> rfl

theorem readArray_write {items : List Json} (h : ∀ value ∈ items, Rereads read again value) {n : Nat}
    (hn : items.length ≤ n) (rest : List Char) :
    readArray read n (writeItems items ++ rest) = ((items.mapM again).map .array).map (·, rest) := by
  cases items with
  | nil => rfl
  | cons item items =>
    obtain ⟨c, cs, htext, hgap, hclose, -⟩ := write_cons item
    have hfront : skipGap (writeItems (item :: items) ++ rest) = writeItems (item :: items) ++ rest := by
      simp only [writeItems, htext, List.cons_append, skipGap_cons hgap]
    unfold readArray
    rw [hfront]
    split
    · rename_i heq
      simp only [writeItems, htext, List.cons_append] at heq
      exact absurd (List.cons.inj heq).1 hclose
    · rw [readItems_write h hn]
      cases (item :: items).mapM again <;> rfl

/-- A field is read as its name and its value. -/
theorem readField_write {field : String × Json} (h : Rereads read again field.2) {rest : List Char}
    (hrest : Stops rest) : readField read (quote field.1 ++ (':' :: (field.2.write ++ rest))) =
      ((again field.2).map fun value => (field.1, value)).map (·, rest) := by
  have hquote : skipGap (quote field.1 ++ (':' :: (field.2.write ++ rest))) =
      '"' :: (field.1.toList.flatMap escape ++ '"' :: (':' :: (field.2.write ++ rest))) := by
    unfold quote
    rw [List.append_assoc, List.cons_append, skipGap_cons (by decide)]
    rfl
  unfold readField
  rw [hquote]
  simp only [readString_quoted, skipGap_cons (show isGap ':' = false by decide), h rest hrest]
  cases again field.2 with
  | none => rfl
  | some value => simp only [Option.map_some, String.ofList_toList]

/-- The fields of an object are read one by one. -/
theorem readFields_write {field : String × Json} {fields : List (String × Json)}
    (h : ∀ entry ∈ field :: fields, Rereads read again entry.2) {n : Nat} (hn : fields.length < n) (rest : List Char) :
    readFields read n (writeFields (field :: fields) ++ rest) =
      ((field :: fields).mapM fun entry => (again entry.2).map fun value => (entry.1, value)).map (·, rest) := by
  induction fields generalizing field n with
  | nil =>
    cases n with
    | zero => contradiction
    | succ n =>
      have hfield := readField_write (h field (List.mem_singleton_self field)) (stops_cons (.inr (.inr rfl)) rest)
      simp only [writeFields, writeMoreFields, List.append_assoc, List.cons_append, List.nil_append]
      unfold readFields
      dsimp only
      rw [hfield]
      cases hagain : again field.2 with
      | none => simp [hagain]
      | some first => simp [hagain, skipGap_cons (show isGap '}' = false by decide)]
  | cons next fields ih =>
    cases n with
    | zero => contradiction
    | succ n =>
      have hfield := readField_write (h field (List.mem_cons_self ..))
        (stops_cons (.inl rfl) (writeFields (next :: fields) ++ rest))
      have hmore := ih (fun entry hentry => h entry (List.mem_cons_of_mem _ hentry)) (Nat.lt_of_succ_lt_succ hn)
      have htext : writeFields (field :: next :: fields) ++ rest =
          quote field.1 ++ (':' :: (field.2.write ++ (',' :: (writeFields (next :: fields) ++ rest)))) := by
        simp only [writeFields, writeMoreFields, List.append_assoc, List.cons_append]
      rw [htext]
      unfold readFields
      dsimp only
      rw [hfield, List.mapM_cons]
      cases hagain : again field.2 with
      | none => rfl
      | some first =>
        simp only [Option.map_some, skipGap_cons (show isGap ',' = false by decide), hmore]
        cases (next :: fields).mapM fun entry => (again entry.2).map fun value => (entry.1, value) <;> rfl

theorem readObject_write {fields : List (String × Json)} (h : ∀ field ∈ fields, Rereads read again field.2) {n : Nat}
    (hn : fields.length ≤ n) (rest : List Char) :
    readObject read n (writeFields fields ++ rest) =
      ((fields.mapM fun field => (again field.2).map fun value => (field.1, value)).map fun fields =>
        Json.object (Record.ofFields fields)).map (·, rest) := by
  cases fields with
  | nil => rfl
  | cons field fields =>
    have hfront : skipGap (writeFields (field :: fields) ++ rest) = writeFields (field :: fields) ++ rest := by
      simp only [writeFields, quote, List.cons_append, skipGap_cons (show isGap '"' = false by decide)]
    unfold readObject
    rw [hfront]
    split
    · rename_i heq
      simp [writeFields, quote] at heq
    · rw [readFields_write h hn]
      cases (field :: fields).mapM fun entry => (again entry.2).map fun value => (entry.1, value) <;> rfl

end Parts

/-! ## Values -/

theorem length_writeItems (items : List Json) : items.length ≤ (writeItems items).length ∧
    ∀ item ∈ items, item.write.length ≤ (writeItems items).length := by
  induction items with
  | nil => exact ⟨Nat.zero_le _, nofun⟩
  | cons first items ih =>
    have hlength : first.write.length + (writeItems items).length ≤ (writeItems (first :: items)).length := by
      cases items <;> simp [writeItems, writeMoreItems]
    obtain ⟨c, cs, htext, -⟩ := write_cons first
    have hpos : 0 < first.write.length := by simp [htext]
    refine ⟨?_, List.forall_mem_cons.2 ⟨by omega, fun item hitem => Nat.le_trans (ih.2 item hitem) (by omega)⟩⟩
    have := ih.1
    rw [List.length_cons]
    omega

theorem length_writeFields (fields : List (String × Json)) : fields.length ≤ (writeFields fields).length ∧
    ∀ field ∈ fields, field.2.write.length ≤ (writeFields fields).length := by
  induction fields with
  | nil => exact ⟨Nat.zero_le _, nofun⟩
  | cons first fields ih =>
    have hlength : first.2.write.length + (writeFields fields).length + 1 ≤ (writeFields (first :: fields)).length := by
      cases fields with
      | nil => simp [writeFields, writeMoreFields]
      | cons next fields =>
        simp [writeFields, writeMoreFields]
        omega
    refine ⟨?_, List.forall_mem_cons.2 ⟨by omega, fun field hfield => Nat.le_trans (ih.2 field hfield) (by omega)⟩⟩
    have := ih.1
    rw [List.length_cons]
    omega

theorem readValue_string (limit depth : Nat) (text : String) (rest : List Char) :
    readValue limit depth ((Json.string text).write ++ rest) = some (.string text, rest) := by
  have hquote : (Json.string text).write ++ rest = '"' :: (text.toList.flatMap escape ++ '"' :: rest) := by
    simp [write, quote]
  rw [hquote]
  cases depth <;> unfold readValue <;>
    simp [skipGap_cons (show isGap '"' = false by decide), readScalar, readString_quoted, String.ofList_toList]

/-- Reading the text of a value gives what `reread` gives, when arrays and objects may have as many parts as the
text is long. -/
theorem readValue_write {limit : Nat} (depth : Nat) {value : Json} (hlimit : value.write.length ≤ limit) :
    Rereads (readValue limit depth) (reread depth) value := by
  -- The text of a part is no longer than the text of the whole, so the limit is enough for the parts too.
  intro rest hrest
  cases value with
  | null => cases depth <;> rfl
  | bool flag => cases depth <;> cases flag <;> rfl
  | int n =>
    rw [← write_int, readValue_numeral (Numeral.ofInt_sound n) hrest]
    cases depth <;> rfl
  | float x =>
    rw [← write_float, readValue_numeral (Numeral.ofDouble_sound x) hrest]
    cases depth <;> rfl
  | string text =>
    rw [readValue_string]
    cases depth <;> rfl
  | array items =>
    have hlength := length_writeItems items
    have htext : (Json.array items).write = '[' :: writeItems items := by simp only [write]
    rw [htext, List.length_cons] at hlimit
    cases depth with
    | zero => rfl
    | succ depth =>
      have hitems : ∀ value ∈ items, Rereads (readValue limit depth) (reread depth) value := fun value hvalue =>
        readValue_write depth (by have := hlength.2 value hvalue; omega)
      rw [htext]
      exact readArray_write hitems (by omega) rest
  | object fields =>
    have hlength := length_writeFields fields
    have htext : (Json.object fields).write = '{' :: writeFields fields := by simp only [write]
    rw [htext, List.length_cons] at hlimit
    cases depth with
    | zero => rfl
    | succ depth =>
      have hfields : ∀ field ∈ fields, Rereads (readValue limit depth) (reread depth) field.2 := fun field hfield =>
        readValue_write depth (by have := hlength.2 field hfield; omega)
      rw [htext]
      exact readObject_write hfields (by omega) rest

/-- What a text that was written is read as. -/
theorem parse?_render (value : Json) : parse? value.render = reread depthLimit value := by
  have hread := readValue_write depthLimit (Nat.le_refl value.write.length) [] nofun
  rw [List.append_nil] at hread
  unfold parse? parseWithin? render
  rw [String.length_ofList, String.toList_ofList, hread]
  cases reread depthLimit value <;> rfl

/-! ## Values that are read as themselves -/

theorem ofDigits_toDigits (n : Nat) : Text.ofDigits (digitValues (Nat.toDigits 10 n)) = n := by
  refine Eq.trans ?_ (Nat.ofDigitChars_toDigits (show 1 < 10 by decide) (Nat.le_refl 10))
  unfold Text.ofDigits digitValues Nat.ofDigitChars
  exact List.foldl_map

/-- The digits of a positive number do not begin with zero. -/
theorem digitValues_toDigits_cons {n : Nat} (hn : 0 < n) :
    ∃ first more, digitValues (Nat.toDigits 10 n) = (first + 1) :: more := by
  induction n using Nat.strongRecOn with
  | ind n ih =>
    by_cases hsmall : n < 10
    · rw [Nat.toDigits_of_lt_base hsmall]
      have hdigit : ∀ n < 10, (Nat.digitChar n).toNat - '0'.toNat = n := by decide
      refine ⟨n - 1, [], ?_⟩
      rw [Nat.sub_add_cancel hn]
      exact congrArg (· :: []) (hdigit n hsmall)
    · obtain ⟨first, more, hvalues⟩ := ih (n / 10) (by omega) (by omega)
      refine ⟨first, more ++ digitValues [Nat.digitChar (n % 10)], ?_⟩
      rw [Nat.toDigits_of_base_le (by decide) (by omega)]
      unfold digitValues at hvalues ⊢
      rw [List.map_append, hvalues]
      rfl

theorem wholeOf?_toDigits (n : Nat) :
    wholeOf? (digitValues (Nat.toDigits 10 n)) = some (digitValues (Nat.toDigits 10 n)) := by
  rcases Nat.eq_zero_or_pos n with rfl | hn
  · rfl
  · obtain ⟨first, more, hvalues⟩ := digitValues_toDigits_cons hn
    rw [hvalues]
    rfl

/-- A whole number of 64 bits is read as itself. -/
theorem value?_ofInt {n : Int} (hmin : signedMin ≤ n) (hmax : n ≤ unsignedMax) :
    (Numeral.ofInt n).value? = some (.int n) := by
  unfold Numeral.value? Numeral.ofInt
  dsimp only
  rw [wholeOf?_toDigits]
  unfold numberOf?
  simp only [Option.bind_some, Option.map_none, Option.isSome_none, Bool.or_false, Bool.false_eq_true, if_false,
    ofDigits_toDigits, decide_eq_true_eq]
  by_cases hn : n < 0
  · rw [if_pos hn, if_pos (by omega)]
    exact congrArg (fun m => some (Json.int m)) (by omega)
  · rw [if_neg hn, if_pos (by omega)]
    exact congrArg (fun m => some (Json.int m)) (by omega)

/-- A value without doubles that is nested at most `depth` deep, with whole numbers of 64 bits and the fields of
every object in the order of their names. -/
inductive Plain : Nat → Json → Prop
  | null {depth : Nat} : Plain depth .null
  | bool {depth : Nat} (flag : Bool) : Plain depth (.bool flag)
  | int {depth : Nat} {n : Int} (hmin : signedMin ≤ n) (hmax : n ≤ unsignedMax) : Plain depth (.int n)
  | string {depth : Nat} (text : String) : Plain depth (.string text)
  | array {depth : Nat} {items : List Json} (h : ∀ item ∈ items, Plain depth item) : Plain (depth + 1) (.array items)
  | object {depth : Nat} {fields : List (String × Json)} (h : ∀ field ∈ fields, Plain depth field.2)
    (hsorted : fields.Pairwise fun a b => a.1 < b.1) : Plain (depth + 1) (.object fields)

theorem insert_last {name : String} {value : Json} {record : Record} (h : ∀ field ∈ record, field.1 < name) :
    Record.insert name value record = record ++ [(name, value)] := by
  induction record with
  | nil => rfl
  | cons field record ih =>
    have hfield := h field (List.mem_cons_self ..)
    unfold Record.insert
    rw [if_neg (String.lt_asymm hfield), if_neg fun heq => String.lt_irrefl _ (heq ▸ hfield),
      ih fun field hfield => h field (List.mem_cons_of_mem _ hfield)]
    rfl

/-- Fields in the order of their names are the record that they make. -/
theorem ofFields_sorted {fields : List (String × Json)} (h : fields.Pairwise fun a b => a.1 < b.1) :
    Record.ofFields fields = fields := by
  have hfold : ∀ (more front : List (String × Json)), (front ++ more).Pairwise (fun a b => a.1 < b.1) →
      more.foldl (fun record field => Record.insert field.1 field.2 record) front = front ++ more := by
    intro more
    induction more with
    | nil => exact fun front _ => (List.append_nil front).symm
    | cons field more ih =>
      intro front hsorted
      have hlast : ∀ entry ∈ front, entry.1 < field.1 := fun entry hentry =>
        (List.pairwise_append.1 hsorted).2.2 entry hentry field (List.mem_cons_self ..)
      have happend : front ++ field :: more = (front ++ [field]) ++ more := by simp
      rw [List.foldl_cons, insert_last hlast, ih _ (happend ▸ hsorted), happend]
  exact hfold fields [] h

theorem mapM_eq_self {α : Type} {f : α → Option α} {xs : List α} (h : ∀ x ∈ xs, f x = some x) : xs.mapM f = some xs := by
  induction xs with
  | nil => rfl
  | cons x xs ih =>
    rw [List.mapM_cons, h x (List.mem_cons_self ..), ih fun y hy => h y (List.mem_cons_of_mem _ hy)]
    rfl

theorem mem_of_mapM {α β : Type} {f : α → Option β} {xs : List α} {ys : List β} {x : α} {y : β}
    (h : xs.mapM f = some ys) (hx : x ∈ xs) (hy : f x = some y) : y ∈ ys := by
  induction xs generalizing ys with
  | nil => cases hx
  | cons first xs ih =>
    simp only [List.mapM_cons, Option.bind_eq_bind, Option.bind_eq_some_iff, Option.pure_def, Option.some.injEq] at h
    obtain ⟨z, hz, zs, hzs, rfl⟩ := h
    rcases List.mem_cons.1 hx with rfl | hx
    · exact Option.some.inj (hz.symm.trans hy) ▸ List.mem_cons_self ..
    · exact List.mem_cons_of_mem _ (ih hzs hx)

/-- A plain value is read as itself. -/
theorem Plain.reread {depth : Nat} {value : Json} (h : Plain depth value) :
    Json.reread depth value = some value := by
  induction h with
  | null | bool | string => unfold Json.reread; rfl
  | int hmin hmax =>
    unfold Json.reread
    exact value?_ofInt hmin hmax
  | array h ih =>
    unfold Json.reread
    rw [mapM_eq_self ih]
    rfl
  | object h hsorted ih =>
    unfold Json.reread
    have hfields := mapM_eq_self fun field hfield =>
      show (Json.reread _ field.2).map (fun value => (field.1, value)) = some field from by rw [ih field hfield]; rfl
    rw [hfields]
    exact congrArg (fun fields => some (Json.object fields)) (ofFields_sorted hsorted)

end Taskboard.Json
