import Mysql2.Packets.ParameterLayout

/-!
# Requests with parameters and their grammar

A request fills the buffer that is sized for it, and its grammar reads from it
what was given to it.
-/

namespace Mysql2.Packets

open Mysql2.Stream Mysql2.Script RequestGrammar

/-! ## The null bitmap -/

theorem two_pow_ne_256 {count : Nat} (notFull : count ≠ 7) : 2 ^ (count + 1) ≠ 256 := by
  intro equal
  have eight : count + 1 = 8 := (Nat.pow_right_inj (by decide)).mp equal
  omega

/-- The loop over parameters, with `count` bits in the current byte. -/
theorem length_nullBitmap (parameters : List Parameter) {bitmap count : Nat} (partial_ : count < 8) :
    (nullBitmap bitmap (2 ^ count) parameters).length = (count + parameters.length + 7) / 8 := by
  induction parameters generalizing bitmap count with
  | nil =>
      rw [nullBitmap]
      cases count with
      | zero => rfl
      | succ count =>
          have notOne : 2 ^ (count + 1) ≠ 1 :=
            Nat.ne_of_gt (Nat.one_lt_two_pow (Nat.succ_ne_zero count))
          rw [if_pos notOne, List.length_singleton, List.length_nil]
          omega
  | cons parameter parameters ih =>
      rw [nullBitmap, ← Nat.pow_succ, List.length_cons]
      by_cases full : count = 7
      · subst full
        rw [if_pos (by decide), List.length_cons]
        have others : (nullBitmap 0 (2 ^ 0) parameters).length = _ := ih (by decide)
        rw [Nat.pow_zero] at others
        rw [others]
        omega
      · rw [if_neg (two_pow_ne_256 full), ih (by omega)]
        omega

theorem bit_cons_of_lt (byte : UInt8) (rest : Bytes) {index : Nat} (small : index < 8) :
    bit (byte :: rest) index = byte.toNat.testBit index := by
  rw [bit, Nat.div_eq_of_lt small, Nat.mod_eq_of_lt small]
  rfl

theorem bit_cons_add (byte : UInt8) (rest : Bytes) (index : Nat) :
    bit (byte :: rest) (8 + index) = bit rest index := by
  rw [bit, bit, Nat.add_mod_left, Nat.add_comm 8, Nat.add_div_right _ (by decide)]
  rfl

theorem testBit_toByte {bitmap index : Nat} (small : index < 8) :
    (toByte bitmap).toNat.testBit index = bitmap.testBit index := by
  rw [toByte_toNat, show 256 = 2 ^ 8 from rfl, Nat.testBit_mod_two_pow, decide_eq_true small,
    Bool.true_and]

/-- The current byte behind one more parameter. -/
theorem testBit_bitmap (isNull : Bool) {bitmap count : Nat} (small : bitmap < 2 ^ count) :
    (if isNull then bitmap ||| 2 ^ count else bitmap) < 2 ^ (count + 1) ∧
      (∀ index < count, (if isNull then bitmap ||| 2 ^ count else bitmap).testBit index =
        bitmap.testBit index) ∧
      (if isNull then bitmap ||| 2 ^ count else bitmap).testBit count = isNull := by
  have clear : bitmap.testBit count = false := Nat.testBit_lt_two_pow small
  have next : 2 ^ count < 2 ^ (count + 1) := Nat.pow_lt_pow_succ (by decide)
  cases isNull with
  | false =>
      rw [if_neg Bool.false_ne_true]
      exact ⟨Nat.lt_trans small next, fun _ _ => rfl, clear⟩
  | true =>
      rw [if_pos rfl]
      refine ⟨Nat.or_lt_two_pow (Nat.lt_trans small next) next, ?_, ?_⟩
      · rintro index below
        rw [Nat.testBit_or, Nat.testBit_two_pow_of_ne (Nat.ne_of_gt below), Bool.or_false]
      · rw [Nat.testBit_or, Nat.testBit_two_pow_self, Bool.or_true]

/-- Bits below `count` are those of the current byte, the others belong to the
parameters. -/
theorem bit_nullBitmap (parameters : List Parameter) {bitmap count : Nat} (partial_ : count < 8)
    (small : bitmap < 2 ^ count) :
    (∀ index < count, bit (nullBitmap bitmap (2 ^ count) parameters) index = bitmap.testBit index) ∧
      ∀ index (inside : index < parameters.length),
        bit (nullBitmap bitmap (2 ^ count) parameters) (count + index) =
          parameters[index].isNull := by
  induction parameters generalizing bitmap count with
  | nil =>
      constructor
      · rintro index below
        have notOne : 2 ^ count ≠ 1 := Nat.ne_of_gt (Nat.one_lt_two_pow (by omega))
        rw [nullBitmap, if_pos notOne, bit_cons_of_lt _ _ (by omega), testBit_toByte (by omega)]
      · rintro index ⟨⟩
  | cons parameter parameters ih =>
      obtain ⟨smaller, kept, set⟩ := testBit_bitmap parameter.isNull small
      rw [nullBitmap, ← Nat.pow_succ]
      generalize (if parameter.isNull then bitmap ||| 2 ^ count else bitmap) = next at *
      by_cases full : count = 7
      · subst full
        rw [if_pos (by decide)]
        obtain ⟨_, others⟩ := ih (show 0 < 8 by decide) (show 0 < 2 ^ 0 by decide)
        constructor
        · rintro index below
          rw [bit_cons_of_lt _ _ (by omega), testBit_toByte (by omega), kept index below]
        · rintro index inside
          cases index with
          | zero => rw [bit_cons_of_lt _ _ (by decide), testBit_toByte (by decide), set]; rfl
          | succ index =>
              rw [show 7 + (index + 1) = 8 + index by omega, bit_cons_add]
              have other := others index (Nat.lt_of_succ_lt_succ inside)
              rwa [Nat.zero_add, Nat.pow_zero] at other
      · rw [if_neg (two_pow_ne_256 full)]
        obtain ⟨current, others⟩ := ih (by omega) smaller
        constructor
        · rintro index below
          rw [current index (by omega), kept index below]
        · rintro index inside
          cases index with
          | zero => rw [Nat.add_zero, current count (by omega), set]; rfl
          | succ index =>
              rw [show count + (index + 1) = count + 1 + index by omega]
              exact others index (Nat.lt_of_succ_lt_succ inside)

/-- The bitmap has one bit a parameter. -/
theorem bits_nullBitmap (parameters : List Parameter) :
    (List.range parameters.length).map (bit (nullBitmap 0 1 parameters)) =
      parameters.map Parameter.isNull := by
  obtain ⟨_, bits⟩ :=
    bit_nullBitmap parameters (show 0 < 8 by decide) (show 0 < 2 ^ 0 by decide)
  apply List.ext_getElem
  · simp
  · intro index _ inside
    have bitEq := bits index (by simpa using inside)
    rw [Nat.zero_add, Nat.pow_zero] at bitEq
    simp [bitEq]

/-! ## Types, names and values -/

/-- What is sent for a name, if names are. -/
def nameBytes : Option Bytes → Bytes
  | none => []
  | some name => writeLengthCodedBuffer name

/-- What a packet says about a parameter before its value. -/
def entryOf (parameter : Parameter) (name : Option Bytes) : Entry :=
  ⟨parameter.type.toNat, parameter.unsigned, name⟩

/-- What a packet says about a parameter. -/
def bindingOf (parameter : Parameter) (name : Option Bytes) : Binding :=
  ⟨entryOf parameter name, if parameter.isNull then none else parameter.write.toOption⟩

theorem spells_name {name : Option Bytes} (short : (nameBytes name).length ≤ kMaxLength) :
    Spells (RequestGrammar.name name.isSome) (nameBytes name) name := by
  cases name with
  | none => exact Spells.pure none
  | some name =>
      rw [nameBytes, Packet.length_writeLengthCodedBuffer] at short
      have fits : name.length < 256 ^ 8 :=
        Nat.lt_of_le_of_lt (Nat.le_trans (Nat.le_add_left _ _) short) (by decide)
      exact (spells_lengthCoded fits).map

theorem hasFlag_unsigned : ∀ unsigned : Bool,
    hasFlag (if unsigned then 0x80 else 0 : UInt8).toNat 0x80 = unsigned := by
  decide

theorem typeEntry_ok {parameter : Parameter} {name bytes : Bytes}
    (ok : typeEntry parameter name = .ok bytes) :
    parameter.type.toNat < 256 ∧
      bytes = toByte parameter.type.toNat :: (if parameter.unsigned then 0x80 else 0) :: name := by
  simp only [typeEntry, bind_eq_ok_iff, pure_eq_ok_iff] at ok
  obtain ⟨code, codeOk, rfl⟩ := ok
  obtain ⟨small, rfl⟩ := writeWhole_finite_ok codeOk
  exact ⟨small, rfl⟩

theorem spells_typeEntry {parameter : Parameter} {name : Option Bytes} {bytes : Bytes}
    (ok : typeEntry parameter (nameBytes name) = .ok bytes) (short : bytes.length ≤ kMaxLength) :
    Spells (entry name.isSome) bytes (entryOf parameter name) := by
  obtain ⟨small, rfl⟩ := typeEntry_ok ok
  have codeEq : (toByte parameter.type.toNat).toNat = parameter.type.toNat := by
    rw [toByte_toNat, Nat.mod_eq_of_lt small]
  have shortName : (nameBytes name).length ≤ kMaxLength :=
    Nat.le_trans (Nat.le_add_right _ 2) short
  have spells : Spells (entry name.isSome)
      ([toByte parameter.type.toNat] ++ ([if parameter.unsigned then 0x80 else 0] ++ nameBytes name))
      ⟨(toByte parameter.type.toNat).toNat,
        hasFlag (if parameter.unsigned then 0x80 else 0 : UInt8).toNat 0x80, name⟩ :=
    (Spells.symbol _).bind ((Spells.symbol _).bind (spells_name shortName).map)
  rwa [codeEq, hasFlag_unsigned] at spells

/-- A parameter with its name. -/
abbrev Item :=
  Parameter × Option Bytes

/-- The names of parameters, as they are sent. -/
def namesOf (items : List Item) : List Bytes :=
  items.map fun item => nameBytes item.2

theorem namesOf_append (first second : List Item) :
    namesOf (first ++ second) = namesOf first ++ namesOf second :=
  List.map_append

theorem writeTypes_cons {item : Item} {items : List Item} {bytes : Bytes}
    (ok : writeTypes ((item :: items).map Prod.fst) (namesOf (item :: items)) = .ok bytes) :
    ∃ first others, typeEntry item.1 (nameBytes item.2) = .ok first ∧
      writeTypes (items.map Prod.fst) (namesOf items) = .ok others ∧ bytes = first ++ others := by
  rw [namesOf, List.map_cons, List.map_cons, writeTypes] at ok
  simp only [bind_eq_ok_iff, pure_eq_ok_iff] at ok
  obtain ⟨first, firstOk, others, othersOk, rfl⟩ := ok
  exact ⟨first, others, firstOk, othersOk, rfl⟩

theorem length_writeTypes {items : List Item} {bytes : Bytes}
    (ok : writeTypes (items.map Prod.fst) (namesOf items) = .ok bytes) :
    bytes.length = items.length * 2 + ((namesOf items).map List.length).sum := by
  induction items generalizing bytes with
  | nil =>
      cases ok
      rfl
  | cons item items ih =>
      obtain ⟨first, others, firstOk, othersOk, rfl⟩ := writeTypes_cons ok
      obtain ⟨_, rfl⟩ := typeEntry_ok firstOk
      simp only [namesOf, List.length_append, List.length_cons, List.map_cons, List.sum_cons,
        ih othersOk]
      omega

theorem spells_types {items : List Item} {names : Bool} {bytes : Bytes}
    (named : ∀ item ∈ items, item.2.isSome = names)
    (ok : writeTypes (items.map Prod.fst) (namesOf items) = .ok bytes)
    (short : bytes.length ≤ kMaxLength) :
    Spells ((entry names).times items.length) bytes
      (items.map fun item => entryOf item.1 item.2) := by
  induction items generalizing bytes with
  | nil =>
      cases ok
      exact Spells.pure []
  | cons item items ih =>
      obtain ⟨first, others, firstOk, othersOk, rfl⟩ := writeTypes_cons ok
      rw [List.length_append] at short
      have firstSpells := spells_typeEntry firstOk (Nat.le_trans (Nat.le_add_right _ _) short)
      rw [named item List.mem_cons_self] at firstSpells
      exact firstSpells.times_cons
        (ih (fun other member => named other (List.mem_cons_of_mem _ member)) othersOk
          (Nat.le_trans (Nat.le_add_left _ _) short))

theorem length_writeValue {parameter : Parameter} {bytes : Bytes}
    (wellFormed : parameter.WellFormed) (ok : writeValue parameter = .ok bytes) :
    bytes.length = valueLength parameter := by
  rw [writeValue] at ok
  rw [valueLength]
  cases isNull : parameter.isNull with
  | true =>
      rw [isNull, if_pos rfl] at ok
      cases ok
      rfl
  | false =>
      rw [isNull, if_neg Bool.false_ne_true] at ok
      exact wellFormed.length_eq bytes isNull ok

theorem spells_value {item : Item} {bytes : Bytes} (wellFormed : item.1.WellFormed)
    (ok : writeValue item.1 = .ok bytes) (short : bytes.length ≤ kMaxLength) :
    Spells (binding (entryOf item.1 item.2, item.1.isNull)) bytes (bindingOf item.1 item.2) := by
  rw [writeValue] at ok
  rw [bindingOf]
  cases isNull : item.1.isNull with
  | true =>
      rw [isNull, if_pos rfl] at ok
      cases ok
      exact Spells.pure _
  | false =>
      rw [isNull, if_neg Bool.false_ne_true] at ok
      rw [if_neg Bool.false_ne_true, ok]
      exact (wellFormed.spells bytes isNull ok short).map

theorem writeValues_cons {parameter : Parameter} {parameters : List Parameter} {bytes : Bytes}
    (ok : writeValues (parameter :: parameters) = .ok bytes) :
    ∃ first others, writeValue parameter = .ok first ∧ writeValues parameters = .ok others ∧
      bytes = first ++ others := by
  rw [writeValues] at ok
  simp only [bind_eq_ok_iff, pure_eq_ok_iff] at ok
  obtain ⟨first, firstOk, others, othersOk, rfl⟩ := ok
  exact ⟨first, others, firstOk, othersOk, rfl⟩

theorem length_writeValues {parameters : List Parameter} {bytes : Bytes}
    (wellFormed : ∀ parameter ∈ parameters, parameter.WellFormed)
    (ok : writeValues parameters = .ok bytes) :
    bytes.length = (parameters.map valueLength).sum := by
  induction parameters generalizing bytes with
  | nil =>
      cases ok
      rfl
  | cons parameter parameters ih =>
      obtain ⟨first, others, firstOk, othersOk, rfl⟩ := writeValues_cons ok
      rw [List.length_append, length_writeValue (wellFormed _ List.mem_cons_self) firstOk,
        ih (fun other member => wellFormed other (List.mem_cons_of_mem _ member)) othersOk,
        List.map_cons, List.sum_cons]

theorem spells_values {items : List Item} {bytes : Bytes}
    (wellFormed : ∀ item ∈ items, item.1.WellFormed)
    (ok : writeValues (items.map Prod.fst) = .ok bytes) (short : bytes.length ≤ kMaxLength) :
    Spells (Grammar.each binding (items.map fun item => (entryOf item.1 item.2, item.1.isNull)))
      bytes (items.map fun item => bindingOf item.1 item.2) := by
  induction items generalizing bytes with
  | nil =>
      cases ok
      exact Spells.pure []
  | cons item items ih =>
      obtain ⟨first, others, firstOk, othersOk, rfl⟩ := writeValues_cons ok
      rw [List.length_append] at short
      exact (spells_value (wellFormed item List.mem_cons_self) firstOk
        (Nat.le_trans (Nat.le_add_right _ _) short)).each_cons
          (ih (fun other member => wellFormed other (List.mem_cons_of_mem _ member)) othersOk
            (Nat.le_trans (Nat.le_add_left _ _) short))

/-! ## The parameters of a request -/

theorem length_writeParameters {items : List Item} {bytes : Bytes}
    (wellFormed : ∀ item ∈ items, item.1.WellFormed)
    (ok : writeParameters (items.map Prod.fst) (namesOf items) = .ok bytes) :
    bytes.length = parametersLength (items.map Prod.fst) (namesOf items) := by
  simp only [writeParameters, bind_eq_ok_iff, pure_eq_ok_iff] at ok
  obtain ⟨types, typesOk, values, valuesOk, rfl⟩ := ok
  have bitmapLength : (nullBitmap 0 (2 ^ 0) (items.map Prod.fst)).length = _ :=
    length_nullBitmap _ (by decide)
  rw [Nat.pow_zero, Nat.zero_add] at bitmapLength
  have valuesLength : values.length = ((items.map Prod.fst).map valueLength).sum :=
    length_writeValues (List.forall_mem_map.mpr wellFormed) valuesOk
  rw [List.length_append, List.length_append, List.length_append, bitmapLength,
    length_writeTypes typesOk, valuesLength, List.length_singleton, parametersLength,
    List.length_map]
  omega

/-- The grammar reads the parameters of a request. -/
theorem spells_parameters {items : List Item} {names : Bool} {bytes : Bytes}
    (wellFormed : ∀ item ∈ items, item.1.WellFormed) (named : ∀ item ∈ items, item.2.isSome = names)
    (ok : writeParameters (items.map Prod.fst) (namesOf items) = .ok bytes)
    (short : bytes.length ≤ kMaxLength) :
    Spells (RequestGrammar.parameters names items.length) bytes
      (items.map fun item => bindingOf item.1 item.2) := by
  simp only [writeParameters, bind_eq_ok_iff, pure_eq_ok_iff] at ok
  obtain ⟨types, typesOk, values, valuesOk, rfl⟩ := ok
  have bitmapLength : (nullBitmap 0 (2 ^ 0) (items.map Prod.fst)).length = _ :=
    length_nullBitmap _ (by decide)
  rw [Nat.pow_zero, Nat.zero_add, List.length_map] at bitmapLength
  rw [List.length_append, List.length_append, List.length_append] at short
  have typesSpell := spells_types named typesOk (by omega)
  have valuesSpell := spells_values wellFormed valuesOk (by omega)
  have bits := bits_nullBitmap (items.map Prod.fst)
  rw [List.length_map, List.map_map] at bits
  have zipped : (items.map fun item => entryOf item.1 item.2).zip
      ((List.range items.length).map (bit (nullBitmap 0 1 (items.map Prod.fst)))) =
      items.map fun item => (entryOf item.1 item.2, item.1.isNull) := by
    rw [bits, List.zip_map']
    rfl
  rw [← zipped] at valuesSpell
  rw [List.append_assoc, List.append_assoc]
  refine (Spells.take bitmapLength).bind ((Spells.symbol 1).bind ?_)
  rw [if_pos rfl]
  exact typesSpell.bind valuesSpell

/-- Why the parameters of a request may not be written: a type is no byte, or a
number of a value is out of range. -/
def Unwritable (items : List Item) : Prop :=
  ∃ item ∈ items, 256 ≤ item.1.type.toNat ∨
    item.1.isNull = false ∧ ∃ error, item.1.write = .error error

theorem writeTypes_error {items : List Item} {error : JsError}
    (failed : writeTypes (items.map Prod.fst) (namesOf items) = .error error) :
    error.code = some (.name "ERR_OUT_OF_RANGE") ∧ Unwritable items := by
  induction items with
  | nil => cases failed
  | cons item items ih =>
      rw [namesOf, List.map_cons, List.map_cons, writeTypes] at failed
      simp only [bind_eq_error_iff] at failed
      rcases failed with failed | ⟨_, _, failed | ⟨_, _, ⟨⟩⟩⟩
      · simp only [typeEntry, bind_eq_error_iff] at failed
        rcases failed with failed | ⟨_, _, ⟨⟩⟩
        exact ⟨outOfRange_writeWhole failed, item, List.mem_cons_self,
          .inl (writeWhole_finite_error failed)⟩
      · obtain ⟨code, other, member, unwritable⟩ := ih failed
        exact ⟨code, other, List.mem_cons_of_mem _ member, unwritable⟩

theorem writeValues_error {items : List Item} {error : JsError}
    (wellFormed : ∀ item ∈ items, item.1.WellFormed)
    (failed : writeValues (items.map Prod.fst) = .error error) :
    error.code = some (.name "ERR_OUT_OF_RANGE") ∧ Unwritable items := by
  induction items with
  | nil => cases failed
  | cons item items ih =>
      rw [List.map_cons, writeValues] at failed
      simp only [bind_eq_error_iff] at failed
      rcases failed with failed | ⟨_, _, failed | ⟨_, _, ⟨⟩⟩⟩
      · rw [writeValue] at failed
        cases isNull : item.1.isNull with
        | true =>
            rw [isNull, if_pos rfl] at failed
            cases failed
        | false =>
            rw [isNull, if_neg Bool.false_ne_true] at failed
            exact ⟨(wellFormed item List.mem_cons_self).outOfRange error isNull failed, item,
              List.mem_cons_self, .inr ⟨isNull, error, failed⟩⟩
      · obtain ⟨code, other, member, unwritable⟩ :=
          ih (fun other member => wellFormed other (List.mem_cons_of_mem _ member)) failed
        exact ⟨code, other, List.mem_cons_of_mem _ member, unwritable⟩

theorem writeParameters_error {items : List Item} {error : JsError}
    (wellFormed : ∀ item ∈ items, item.1.WellFormed)
    (failed : writeParameters (items.map Prod.fst) (namesOf items) = .error error) :
    error.code = some (.name "ERR_OUT_OF_RANGE") ∧ Unwritable items := by
  simp only [writeParameters, bind_eq_error_iff] at failed
  rcases failed with failed | ⟨_, _, failed | ⟨_, _, ⟨⟩⟩⟩
  · exact writeTypes_error failed
  · exact writeValues_error wellFormed failed

/-! ## Attributes -/

/-- The parameters of attributes, with their encoded names. -/
def attributeItems (settings : RequestSettings) (timezone : String) :
    List (JsString × JsValue) → Except JsError (List Item)
  | [] => .ok []
  | (name, value) :: attributes => do
      let parameter ← toParameter settings timezone false value none
      let nameBuffer ← settings.encode name
      return (parameter, some nameBuffer) :: (← attributeItems settings timezone attributes)

theorem attributeItems_cons {settings : RequestSettings} {timezone : String} {name : JsString}
    {value : JsValue} {attributes : List (JsString × JsValue)} {items : List Item}
    (ok : attributeItems settings timezone ((name, value) :: attributes) = .ok items) :
    ∃ parameter nameBuffer others, toParameter settings timezone false value none = .ok parameter ∧
      settings.encode name = .ok nameBuffer ∧
      attributeItems settings timezone attributes = .ok others ∧
      items = (parameter, some nameBuffer) :: others := by
  rw [attributeItems] at ok
  simp only [bind_eq_ok_iff, pure_eq_ok_iff] at ok
  obtain ⟨parameter, parameterOk, nameBuffer, nameOk, others, othersOk, rfl⟩ := ok
  exact ⟨parameter, nameBuffer, others, parameterOk, nameOk, othersOk, rfl⟩

theorem wellFormed_attributeItems {settings : RequestSettings} {timezone : String}
    {attributes : List (JsString × JsValue)} {items : List Item}
    (ok : attributeItems settings timezone attributes = .ok items) :
    ∀ item ∈ items, item.1.WellFormed ∧ item.2.isSome = true := by
  induction attributes generalizing items with
  | nil =>
      cases ok
      exact fun item member => absurd member List.not_mem_nil
  | cons pair attributes ih =>
      obtain ⟨parameter, nameBuffer, others, parameterOk, _, othersOk, rfl⟩ :=
        attributeItems_cons ok
      exact List.forall_mem_cons.mpr ⟨⟨wellFormed_toParameter parameterOk, rfl⟩, ih othersOk⟩

theorem queryAttributes_of_items {settings : RequestSettings}
    {attributes : List (JsString × JsValue)} {items : List Item}
    (ok : attributeItems settings "local" attributes = .ok items) :
    queryAttributes settings attributes =
      .ok (items.map fun item => (item.1, nameBytes item.2)) := by
  induction attributes generalizing items with
  | nil =>
      cases ok
      rfl
  | cons pair attributes ih =>
      obtain ⟨parameter, nameBuffer, others, parameterOk, nameOk, othersOk, rfl⟩ :=
        attributeItems_cons ok
      rw [queryAttributes, parameterOk, nameOk, ih othersOk]
      rfl

theorem attributeParameters_of_items {settings : RequestSettings}
    {attributes : List (JsString × JsValue)} {items : List Item}
    (ok : attributeItems settings settings.timezone attributes = .ok items) :
    attributeParameters settings attributes = .ok (items.map Prod.fst) ∧
      attributeNames settings attributes = .ok (namesOf items) := by
  induction attributes generalizing items with
  | nil =>
      cases ok
      exact ⟨rfl, rfl⟩
  | cons pair attributes ih =>
      obtain ⟨parameter, nameBuffer, others, parameterOk, nameOk, othersOk, rfl⟩ :=
        attributeItems_cons ok
      obtain ⟨parametersEq, namesEq⟩ := ih othersOk
      constructor
      · rw [attributeParameters, parameterOk, parametersEq]
        rfl
      · rw [attributeNames, nameOk, namesEq]
        rfl

/-! ## `COM_STMT_EXECUTE` -/

theorem wellFormed_bindParameters {settings : RequestSettings}
    {definitions : List ColumnDefinition} {index : Nat} {values : List JsValue}
    {parameters : List Parameter} (ok : bindParameters settings definitions index values = .ok parameters) :
    parameters.length = values.length ∧ ∀ parameter ∈ parameters, parameter.WellFormed := by
  induction values generalizing index parameters with
  | nil =>
      cases ok
      exact ⟨rfl, fun parameter member => absurd member List.not_mem_nil⟩
  | cons value values ih =>
      rw [bindParameters] at ok
      simp only [bind_eq_ok_iff, pure_eq_ok_iff] at ok
      obtain ⟨parameter, parameterOk, others, othersOk, rfl⟩ := ok
      obtain ⟨lengthEq, wellFormed⟩ := ih othersOk
      exact ⟨congrArg (· + 1) lengthEq,
        List.forall_mem_cons.mpr ⟨wellFormed_toParameter parameterOk, wellFormed⟩⟩

/-- The parameters of an execution, as they are accepted: bind parameters, which
have an empty name if names are sent, and attributes, which are sent only with
names. -/
def executeItems (settings : RequestSettings) (definitions : List ColumnDefinition)
    (values : List JsValue) (attributes : List (JsString × JsValue)) :
    Except JsError (List Item) := do
  let parameters ← bindParameters settings definitions 0 values
  let others ←
    attributeItems settings settings.timezone (if settings.queryAttributes then attributes else [])
  let bindName : Option Bytes := if settings.queryAttributes then some [] else none
  return parameters.map (·, bindName) ++ others

theorem executeItems_ok {settings : RequestSettings} {definitions : List ColumnDefinition}
    {values : List JsValue} {attributes : List (JsString × JsValue)} {items : List Item}
    (ok : executeItems settings definitions values attributes = .ok items) :
    executeParameters settings definitions values attributes =
        .ok (items.map Prod.fst, namesOf items) ∧
      (∀ item ∈ items, item.1.WellFormed ∧ item.2.isSome = settings.queryAttributes) ∧
      (settings.queryAttributes = false → items.length = values.length) := by
  simp only [executeItems, bind_eq_ok_iff, pure_eq_ok_iff] at ok
  obtain ⟨parameters, parametersOk, others, othersOk, rfl⟩ := ok
  obtain ⟨lengthEq, wellFormed⟩ := wellFormed_bindParameters parametersOk
  obtain ⟨othersEq, namesEq⟩ := attributeParameters_of_items othersOk
  have firsts : ∀ name : Option Bytes,
      (parameters.map fun parameter => (parameter, name)).map Prod.fst = parameters := by
    simp [Function.comp_def]
  have names : ∀ name : Option Bytes,
      namesOf (parameters.map fun parameter => (parameter, name)) =
        List.replicate values.length (nameBytes name) := by
    simp [namesOf, ← lengthEq, Function.comp_def, List.map_const']
  have bound : ∀ name : Option Bytes, ∀ item ∈ parameters.map fun parameter => (parameter, name),
      item.1.WellFormed ∧ item.2.isSome = name.isSome := by
    rintro name item member
    obtain ⟨parameter, parameterMember, rfl⟩ := List.mem_map.mp member
    exact ⟨wellFormed parameter parameterMember, rfl⟩
  have attributesWellFormed := wellFormed_attributeItems othersOk
  simp only [executeParameters, parametersOk, othersEq, namesEq]
  cases named : settings.queryAttributes with
  | true =>
      simp only [if_true]
      refine ⟨?_, List.forall_mem_append.mpr ⟨bound (some []), attributesWellFormed⟩, ?_⟩
      · rw [List.map_append, firsts, namesOf_append, names]
        rfl
      · rintro ⟨⟩
  | false =>
      simp only [named, Bool.false_eq_true, if_false] at othersOk ⊢
      cases othersOk
      rw [List.append_nil]
      refine ⟨?_, bound none, ?_⟩
      · rw [firsts, names, namesOf]
        show Except.ok _ = Except.ok _
        rw [List.map_nil, List.map_nil, List.append_nil, List.append_nil]
        rfl
      · rintro _
        rw [List.length_map, lengthEq]

/-- Why an accepted execution may not be written: the statement has no id of a
server, the buffer would be too long, or a parameter cannot be written. -/
def ExecuteOutOfRange (settings : RequestSettings) (statementId : Nat) (items : List Item) : Prop :=
  2 ^ 32 ≤ statementId ∨ kMaxLength < executeLength settings (items.map Prod.fst) (namesOf items) ∨
    Unwritable items

theorem spells_command (code : UInt8) : Spells (command code) [code] () := by
  have matched : Spells (if code = code then pure () else failure : Grammar UInt8 Unit) [] () := by
    rw [if_pos rfl]
    exact Spells.pure ()
  exact (Spells.symbol code).bind matched

/-- What is written of an execution fills its buffer. -/
theorem length_optionalParameters {items : List Item} {bytes : Bytes}
    (wellFormed : ∀ item ∈ items, item.1.WellFormed)
    (ok : writeOptionalParameters (items.map Prod.fst) (namesOf items) = .ok bytes) :
    bytes.length = if 0 < (items.map Prod.fst).length then
      parametersLength (items.map Prod.fst) (namesOf items) else 0 := by
  rw [writeOptionalParameters] at ok
  split at ok
  · rename_i some
    rw [if_pos some, length_writeParameters wellFormed ok]
  · rename_i none
    cases ok
    rw [if_neg none]
    rfl

theorem spells_optionalParameters {items : List Item} {names : Bool} {bytes : Bytes}
    (wellFormed : ∀ item ∈ items, item.1.WellFormed) (named : ∀ item ∈ items, item.2.isSome = names)
    (ok : writeOptionalParameters (items.map Prod.fst) (namesOf items) = .ok bytes)
    (short : bytes.length ≤ kMaxLength) :
    Spells (optionalParameters names items.length) bytes
      (items.map fun item => bindingOf item.1 item.2) := by
  rw [writeOptionalParameters, List.length_map] at ok
  rw [optionalParameters]
  split at ok
  · rename_i some
    rw [if_pos some]
    exact spells_parameters wellFormed named ok short
  · rename_i none
    cases ok
    rw [if_neg none, List.eq_nil_of_length_eq_zero (Nat.eq_zero_of_not_pos none)]
    exact Spells.pure []

theorem allocUnsafe_ok {length : Nat} {done : Unit} (ok : allocUnsafe length = .ok done) :
    length ≤ kMaxLength := by
  rw [allocUnsafe] at ok
  split at ok
  · assumption
  · cases ok

theorem allocUnsafe_error {length : Nat} {error : JsError} (failed : allocUnsafe length = .error error) :
    error.code = some (.name "ERR_OUT_OF_RANGE") ∧ kMaxLength < length := by
  rw [allocUnsafe] at failed
  split at failed
  · cases failed
  · rename_i large
    cases failed
    exact ⟨rfl, Nat.lt_of_not_le large⟩

theorem filledPacket_ok {name : String} {length : Nat} {bytes : Bytes}
    (fills : bytes.length + 4 = length) :
    filledPacket name length bytes = .ok (.new 0 ([0, 0, 0, 0] ++ bytes) 0 length) :=
  if_pos fills

/-- The bytes of an execution. -/
def executeBytes (settings : RequestSettings) (statementId count : Nat) (block : Bytes) : Bytes :=
  [0x17] ++ writeUIntLE statementId 4 ++ [if settings.queryAttributes then 8 else 0] ++
    writeUIntLE 1 4 ++ (if settings.queryAttributes then writeLengthCodedNumber count else []) ++ block

/-- The grammar reads an execution. -/
theorem spells_execute {settings : RequestSettings} {statementId numParams : Nat}
    {items : List Item} {block : Bytes} (isId : statementId < 256 ^ 4)
    (countFits : items.length < 256 ^ 8)
    (counted : settings.queryAttributes = false → items.length = numParams)
    (blockSpells : Spells (optionalParameters settings.queryAttributes items.length) block
      (items.map fun item => bindingOf item.1 item.2)) :
    Spells (RequestGrammar.execute settings.queryAttributes numParams)
      (executeBytes settings statementId items.length block)
      ⟨statementId, if settings.queryAttributes then 8 else 0, 1,
        items.map fun item => bindingOf item.1 item.2⟩ := by
  have countSpells : Spells
      (parameterCount settings.queryAttributes (if settings.queryAttributes then 8 else 0) numParams)
      (if settings.queryAttributes then writeLengthCodedNumber items.length else [])
      items.length := by
    cases named : settings.queryAttributes with
    | true => exact spells_lengthCodedNumber countFits
    | false =>
        rw [counted named]
        exact Spells.pure numParams
  rw [executeBytes]
  simp only [List.append_assoc]
  exact (spells_command 0x17).bind ((spells_number isId).bind ((Spells.symbol _).bind
    ((spells_number (by decide)).bind (countSpells.bind blockSpells.map))))

theorem length_executeBytes {settings : RequestSettings} {statementId count : Nat} {block : Bytes} :
    (executeBytes settings statementId count block).length =
      10 + (if settings.queryAttributes then lengthCodedNumberLength count else 0) +
        block.length := by
  rw [executeBytes]
  cases settings.queryAttributes with
  | true =>
      simp [length_writeUIntLE, Packet.length_writeLengthCodedNumber]
      omega
  | false =>
      simp [length_writeUIntLE]
      omega

theorem length_le_executeLength (settings : RequestSettings) (items : List Item) :
    items.length ≤ executeLength settings (items.map Prod.fst) (namesOf items) := by
  rw [executeLength, List.length_map]
  by_cases some : 0 < items.length
  · rw [if_pos some, parametersLength, List.length_map]
    omega
  · omega

/-- An accepted execution fills its buffer, from which the grammar reads the id
and the parameters, unless a number is out of range. -/
theorem executeToPacket_reads {settings : RequestSettings} (statementId : Nat)
    {definitions : List ColumnDefinition} {values : List JsValue}
    {attributes : List (JsString × JsValue)} {items : List Item}
    (accepted : executeItems settings definitions values attributes = .ok items) :
    (∀ packet, executeToPacket settings statementId definitions values attributes = .ok packet →
      (RequestGrammar.execute settings.queryAttributes values.length).run (packet.buffer.drop 4) =
        some (⟨statementId, if settings.queryAttributes then 8 else 0, 1,
          items.map fun item => bindingOf item.1 item.2⟩, [])) ∧
      ∀ error, executeToPacket settings statementId definitions values attributes = .error error →
        error.code = some (.name "ERR_OUT_OF_RANGE") ∧
          ExecuteOutOfRange settings statementId items := by
  obtain ⟨parametersOk, wellFormed, counted⟩ := executeItems_ok accepted
  have itemsWellFormed : ∀ item ∈ items, item.1.WellFormed :=
    fun item member => (wellFormed item member).1
  have filled : ∀ {block : Bytes},
      writeOptionalParameters (items.map Prod.fst) (namesOf items) = .ok block →
        (executeBytes settings statementId items.length block).length + 4 =
          executeLength settings (items.map Prod.fst) (namesOf items) := by
    rintro block blockOk
    rw [length_executeBytes, executeLength, length_optionalParameters itemsWellFormed blockOk,
      List.length_map]
    omega
  simp only [executeToPacket, parametersOk]
  constructor
  · rintro packet ok
    simp only [bind_eq_ok_iff, Except.ok.injEq, exists_eq_left'] at ok
    obtain ⟨_, allocated, id, idOk, block, blockOk, packetOk⟩ := ok
    obtain ⟨isId, rfl⟩ := writeWhole_finite_ok idOk
    have fits := allocUnsafe_ok allocated
    have filledEq := filled blockOk
    have countFits : items.length < 256 ^ 8 :=
      Nat.lt_of_le_of_lt (Nat.le_trans (length_le_executeLength settings items) fits) (by decide)
    rw [List.length_map] at packetOk
    cases packetOk.symm.trans (filledPacket_ok filledEq)
    rw [← filledEq, length_executeBytes] at fits
    have blockSpells := spells_optionalParameters itemsWellFormed
      (fun item member => (wellFormed item member).2) blockOk (by omega)
    exact (spells_execute isId countFits counted blockSpells).run_eq
  · rintro error failed
    simp only [bind_eq_error_iff, Except.ok.injEq, exists_eq_left', reduceCtorEq, false_or] at failed
    rcases failed with failed | ⟨_, _, failed | ⟨id, idOk, failed | ⟨block, blockOk, failed⟩⟩⟩
    · obtain ⟨code, large⟩ := allocUnsafe_error failed
      exact ⟨code, .inr (.inl large)⟩
    · exact ⟨outOfRange_writeWhole failed, .inl (writeWhole_finite_error failed)⟩
    · rw [writeOptionalParameters] at failed
      split at failed
      · obtain ⟨code, unwritable⟩ := writeParameters_error itemsWellFormed failed
        exact ⟨code, .inr (.inr unwritable)⟩
      · cases failed
    · obtain ⟨_, rfl⟩ := writeWhole_finite_ok idOk
      rw [List.length_map] at failed
      cases failed.symm.trans (filledPacket_ok (filled blockOk))

/-- Requests in UTF-8 with query attributes. -/
def attributeSettings : RequestSettings where
  encoding := .utf8
  hasFastUtf8Write := true
  queryAttributes := true
  timezone := "local"
  jsonAsString := false

/-- The text `q`, as it is accepted. -/
def textParameter : Parameter :=
  ⟨.VAR_STRING, false, false, 2, .ok [1, 0x71]⟩

theorem executeToPacket_reads_three :
    ∃ packet, executeToPacket attributeSettings 7 [] [.boolean true, .null]
        [(units "a", .string (.ok (units "q")))] = .ok packet ∧
      (RequestGrammar.execute true 2).run (packet.buffer.drop 4) =
        some (⟨7, 8, 1, [⟨⟨1, false, some []⟩, some [1]⟩, ⟨⟨6, false, some []⟩, none⟩,
          ⟨⟨0xfd, false, some [0x61]⟩, some [1, 0x71]⟩]⟩, []) := by
  have accepted : executeItems attributeSettings [] [.boolean true, .null]
      [(units "a", .string (.ok (units "q")))] =
        .ok [(⟨.TINY, false, false, 1, .ok [1]⟩, some []), (⟨.NULL, false, true, 0, .ok []⟩, some []),
          (textParameter, some [0x61])] := rfl
  exact ⟨_, rfl, (executeToPacket_reads 7 accepted).1 _ rfl⟩

/-! ## `COM_QUERY` -/

/-- The attributes of a query, as they are accepted.  None are sent unless they
are negotiated. -/
def queryItems (settings : RequestSettings) (attributes : List (JsString × JsValue)) :
    Except JsError (List Item) :=
  attributeItems settings "local" (if settings.queryAttributes then attributes else [])

/-- The bytes of a query. -/
def queryBytes (settings : RequestSettings) (count : Nat) (block sqlBuffer : Bytes) : Bytes :=
  (if settings.queryAttributes then
    [3] ++ writeLengthCodedNumber count ++ writeLengthCodedNumber 1 ++ block
  else
    [3]) ++ sqlBuffer

/-- The length that is predicted for a query. -/
def queryPacketLength (settings : RequestSettings) (items : List Item) (sqlBuffer : Bytes) : Nat :=
  if settings.queryAttributes ∧ items ≠ [] then
    queryLength (items.map Prod.fst) (namesOf items) sqlBuffer
  else
    (if settings.queryAttributes then 7 else 5) + sqlBuffer.length

/-- Why an accepted query may not be written: its buffer would be too long, or an
attribute cannot be written. -/
def QueryOutOfRange (settings : RequestSettings) (items : List Item) (sqlBuffer : Bytes) : Prop :=
  kMaxLength < queryPacketLength settings items sqlBuffer ∨ Unwritable items

/-- The grammar reads a query up to its end. -/
theorem query_run {settings : RequestSettings} (items : List Item) {block : Bytes} (sqlBuffer : Bytes)
    (countFits : items.length < 256 ^ 8)
    (blockSpells : Spells (optionalParameters true items.length) block
      (items.map fun item => bindingOf item.1 item.2))
    (unnamed : settings.queryAttributes = false → items = []) :
    (RequestGrammar.query settings.queryAttributes).run
        (queryBytes settings items.length block sqlBuffer) =
      some ((items.map fun item => bindingOf item.1 item.2, sqlBuffer), []) := by
  rw [queryBytes]
  cases named : settings.queryAttributes with
  | true =>
      simp only [if_true, List.append_assoc]
      rw [RequestGrammar.query, (spells_command 3).run_bind, if_pos rfl,
        (spells_lengthCodedNumber countFits).run_bind,
        (spells_lengthCodedNumber (show 1 < 256 ^ 8 by decide)).run_bind, if_pos rfl,
        blockSpells.run_bind]
      rfl
  | false =>
      rw [unnamed named]
      rfl

/-- The fast path writes what is counted for it. -/
theorem fastQueryPacket_cases (settings : RequestSettings) {sql : JsString} {sqlBuffer : Bytes}
    (encoded : settings.encode sql = .ok sqlBuffer) :
    fastQueryPacket settings sql = (do
      let length := (if settings.queryAttributes then 7 else 5) + sqlBuffer.length
      allocUnsafe length
      return toQueryPacket settings.queryAttributes sqlBuffer length) := by
  rw [fastQueryPacket]
  by_cases fast : settings.fastUtf8 = true
  · rw [RequestSettings.fastUtf8, Bool.and_eq_true] at fast
    obtain rfl : utf8 sql = sqlBuffer :=
      Except.ok.inj ((Encoding.encode_of_isUtf8 fast.2 sql).symm.trans encoded)
    rw [if_pos (by rw [RequestSettings.fastUtf8, Bool.and_eq_true]; exact fast), ← length_utf8]
    simp only [Nat.add_sub_cancel_left, List.take_length]
  · rw [if_neg fast]
    by_cases native : settings.encoding.isEncoding = true
    · obtain ⟨bytes, bytesOk, lengthEq⟩ := Encoding.encode_of_isEncoding native sql
      obtain rfl : bytes = sqlBuffer := Except.ok.inj (bytesOk.symm.trans encoded)
      rw [if_pos native, encoded, ← lengthEq]
      simp only [ok_bind, Nat.add_sub_cancel_left, List.take_length]
    · rw [if_neg native, encoded]
      rfl

theorem length_queryBytes_general {settings : RequestSettings} {items : List Item}
    {block : Bytes} (sqlBuffer : Bytes) (named : settings.queryAttributes = true)
    (blockLength : block.length = parametersLength (items.map Prod.fst) (namesOf items)) :
    (queryBytes settings items.length block sqlBuffer).length + 4 =
      queryLength (items.map Prod.fst) (namesOf items) sqlBuffer := by
  rw [queryBytes, named, if_pos rfl, queryLength, List.length_map]
  simp only [List.length_append, Packet.length_writeLengthCodedNumber, List.length_singleton,
    blockLength]
  have one : lengthCodedNumberLength 1 = 1 := rfl
  omega

theorem length_attributeItems {settings : RequestSettings} {timezone : String}
    {attributes : List (JsString × JsValue)} {items : List Item}
    (ok : attributeItems settings timezone attributes = .ok items) :
    items.length = attributes.length := by
  induction attributes generalizing items with
  | nil =>
      cases ok
      rfl
  | cons pair attributes ih =>
      obtain ⟨_, _, others, _, _, othersOk, rfl⟩ := attributeItems_cons ok
      exact congrArg (· + 1) (ih othersOk)

/-- The general path, for attributes that are accepted. -/
theorem generalQueryPacket_eq {settings : RequestSettings} {sql : JsString}
    {attributes : List (JsString × JsValue)} {items : List Item} {sqlBuffer : Bytes}
    (accepted : attributeItems settings "local" attributes = .ok items)
    (encoded : settings.encode sql = .ok sqlBuffer) :
    generalQueryPacket settings sql attributes = (do
      let length := queryLength (items.map Prod.fst) (namesOf items) sqlBuffer
      allocUnsafe length
      let block ← writeParameters (items.map Prod.fst) (namesOf items)
      filledPacket "COM_QUERY" length
        ([3] ++ writeLengthCodedNumber items.length ++ writeLengthCodedNumber 1 ++ block ++
          sqlBuffer)) := by
  have firsts : (items.map fun item => (item.1, nameBytes item.2)).map Prod.fst =
      items.map Prod.fst := by
    rw [List.map_map]
    rfl
  have names : (items.map fun item => (item.1, nameBytes item.2)).map Prod.snd = namesOf items := by
    rw [List.map_map]
    rfl
  rw [generalQueryPacket, queryAttributes_of_items accepted]
  simp only [ok_bind, firsts, names, encoded, List.length_map]

/-- What a packet of an accepted query is read as, and its bytes. -/
def QueryReads (settings : RequestSettings) (items : List Item) (sqlBuffer : Bytes)
    (result : Except JsError Packet) : Prop :=
  (∀ packet, result = .ok packet →
    (RequestGrammar.query settings.queryAttributes).run (packet.buffer.drop 4) =
        some ((items.map fun item => bindingOf item.1 item.2, sqlBuffer), []) ∧
      ∃ block, writeOptionalParameters (items.map Prod.fst) (namesOf items) = .ok block ∧
        packet.buffer.drop 4 = queryBytes settings items.length block sqlBuffer) ∧
    ∀ error, result = .error error →
      error.code = some (.name "ERR_OUT_OF_RANGE") ∧ QueryOutOfRange settings items sqlBuffer

theorem generalQueryPacket_reads {settings : RequestSettings} {sql : JsString}
    {attributes : List (JsString × JsValue)} {items : List Item} {sqlBuffer : Bytes}
    (named : settings.queryAttributes = true) (some : attributes ≠ [])
    (accepted : attributeItems settings "local" attributes = .ok items)
    (encoded : settings.encode sql = .ok sqlBuffer) :
    QueryReads settings items sqlBuffer (generalQueryPacket settings sql attributes) := by
  have wellFormed := wellFormed_attributeItems accepted
  have itemsWellFormed : ∀ item ∈ items, item.1.WellFormed :=
    fun item member => (wellFormed item member).1
  have positive : 0 < items.length := by
    rw [length_attributeItems accepted]
    exact List.length_pos_iff.mpr some
  have lengthIs : queryPacketLength settings items sqlBuffer =
      queryLength (items.map Prod.fst) (namesOf items) sqlBuffer :=
    if_pos ⟨named, List.length_pos_iff.mp positive⟩
  have bytesEq : ∀ block, queryBytes settings items.length block sqlBuffer =
      [3] ++ writeLengthCodedNumber items.length ++ writeLengthCodedNumber 1 ++ block ++
        sqlBuffer := by
    intro block
    rw [queryBytes, named, if_pos rfl]
  have filled : ∀ {block : Bytes},
      writeParameters (items.map Prod.fst) (namesOf items) = .ok block →
        filledPacket "COM_QUERY" (queryLength (items.map Prod.fst) (namesOf items) sqlBuffer)
            (queryBytes settings items.length block sqlBuffer) = .ok _ :=
    fun blockOk => filledPacket_ok
      (length_queryBytes_general sqlBuffer named (length_writeParameters itemsWellFormed blockOk))
  rw [generalQueryPacket_eq accepted encoded, QueryReads, QueryOutOfRange, lengthIs]
  simp only [← bytesEq]
  constructor
  · rintro packet ok
    simp only [bind_eq_ok_iff] at ok
    obtain ⟨_, allocated, block, blockOk, packetOk⟩ := ok
    have fits := allocUnsafe_ok allocated
    cases packetOk.symm.trans (filled blockOk)
    have blockLength := length_writeParameters itemsWellFormed blockOk
    have optionalOk : writeOptionalParameters (items.map Prod.fst) (namesOf items) = .ok block := by
      rw [writeOptionalParameters, List.length_map, if_pos positive, blockOk]
    rw [queryLength, ← blockLength] at fits
    rw [parametersLength, List.length_map] at blockLength
    have countFits : items.length < 256 ^ 8 :=
      Nat.lt_of_le_of_lt (show items.length ≤ kMaxLength by omega) (by decide)
    have blockSpells := spells_optionalParameters itemsWellFormed
      (fun item member => (wellFormed item member).2) optionalOk (by omega)
    have notUnnamed : settings.queryAttributes = false → items = [] := by simp [named]
    exact ⟨query_run items sqlBuffer countFits blockSpells notUnnamed, block, optionalOk, rfl⟩
  · rintro error failed
    simp only [bind_eq_error_iff] at failed
    rcases failed with failed | ⟨_, _, failed | ⟨block, blockOk, failed⟩⟩
    · obtain ⟨code, large⟩ := allocUnsafe_error failed
      exact ⟨code, .inl large⟩
    · obtain ⟨code, unwritable⟩ := writeParameters_error itemsWellFormed failed
      exact ⟨code, .inr unwritable⟩
    · cases failed.symm.trans (filled blockOk)

theorem fastQueryPacket_reads {settings : RequestSettings} {sql : JsString} {sqlBuffer : Bytes}
    (encoded : settings.encode sql = .ok sqlBuffer) :
    QueryReads settings [] sqlBuffer (fastQueryPacket settings sql) := by
  have lengthIs : queryPacketLength settings [] sqlBuffer =
      (if settings.queryAttributes then 7 else 5) + sqlBuffer.length := if_neg (by simp)
  rw [fastQueryPacket_cases settings encoded, QueryReads, QueryOutOfRange, lengthIs]
  constructor
  · rintro packet ok
    simp only [bind_eq_ok_iff, pure_eq_ok_iff] at ok
    obtain ⟨_, _, rfl⟩ := ok
    have bytesEq : (toQueryPacket settings.queryAttributes sqlBuffer
        ((if settings.queryAttributes then 7 else 5) + sqlBuffer.length)).buffer.drop 4 =
          queryBytes settings 0 [] sqlBuffer := by
      rw [toQueryPacket, queryBytes]
      cases settings.queryAttributes <;> rfl
    have noParameters : Spells (optionalParameters true ([] : List Item).length) [] [] := Spells.pure []
    rw [bytesEq]
    exact ⟨query_run [] sqlBuffer (by decide) noParameters fun _ => rfl, [], rfl, rfl⟩
  · rintro error failed
    simp only [bind_eq_error_iff] at failed
    rcases failed with failed | ⟨_, _, ⟨⟩⟩
    obtain ⟨code, large⟩ := allocUnsafe_error failed
    exact ⟨code, .inl large⟩

/-- An accepted query fills its buffer, from which the grammar reads the
attributes and the statement, unless a number is out of range.  Its bytes are
those of the general layout, also without attributes. -/
theorem queryToPacket_reads {settings : RequestSettings} {sql : JsString}
    {attributes : List (JsString × JsValue)} {items : List Item} {sqlBuffer : Bytes}
    (accepted : queryItems settings attributes = .ok items)
    (encoded : settings.encode sql = .ok sqlBuffer) :
    QueryReads settings items sqlBuffer (queryToPacket settings sql attributes) := by
  rw [queryToPacket]
  rw [queryItems] at accepted
  by_cases general : settings.queryAttributes = true ∧ attributes ≠ []
  · rw [if_pos general]
    rw [general.1, if_pos rfl] at accepted
    exact generalQueryPacket_reads general.1 general.2 accepted encoded
  · have sent : (if settings.queryAttributes then attributes else []) = [] := by
      cases named : settings.queryAttributes with
      | true => simpa [named] using general
      | false => rfl
    rw [sent] at accepted
    cases accepted
    rw [if_neg general]
    exact fastQueryPacket_reads encoded

theorem queryToPacket_reads_one :
    ∃ packet, queryToPacket attributeSettings (units "SELECT 1")
        [(units "a", .string (.ok (units "q")))] = .ok packet ∧
      (RequestGrammar.query true).run (packet.buffer.drop 4) =
        some (([⟨⟨0xfd, false, some [0x61]⟩, some [1, 0x71]⟩], utf8 (units "SELECT 1")), []) := by
  have accepted : queryItems attributeSettings [(units "a", .string (.ok (units "q")))] =
      .ok [(textParameter, some [0x61])] := rfl
  exact ⟨_, rfl, ((queryToPacket_reads accepted rfl).1 _ rfl).1⟩

end Mysql2.Packets
