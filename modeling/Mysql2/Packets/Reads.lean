import Mysql2.Packets.Dates

/-!
# Readers of given bytes

What a reader makes of some bytes wherever a packet holds them: it throws, or
returns a value and takes these bytes and no others.  Such readers compose.  The
readers of text columns are such readers of every text but a few.
-/

namespace Mysql2.Packets

open Mysql2.Script Packet

variable {α β γ : Type}

/-- Wherever a packet holds the bytes, the reader makes the result of them, and
takes them and no others. -/
def Reads (reader : Reader β) (bytes : Bytes) (result : Except JsError β) : Prop :=
  ∀ (packet : Packet) (rest : Bytes), packet.ahead = bytes ++ rest →
    packet.offset + bytes.length ≤ packet.endOffset →
      reader.run packet = result.map fun value => (value, packet.advance bytes.length)

/-- A reader that takes just some bytes, whatever it makes of them. -/
def Takes (reader : Reader β) (bytes : Bytes) : Prop :=
  ∃ result, Reads reader bytes result

/-- A reader that takes just some bytes and does not throw. -/
def Returns (reader : Reader β) (bytes : Bytes) : Prop :=
  ∃ value, Reads reader bytes (.ok value)

theorem Returns.takes {reader : Reader β} {bytes : Bytes} (returns : Returns reader bytes) :
    Takes reader bytes := by
  obtain ⟨value, reads⟩ := returns
  exact ⟨.ok value, reads⟩

/-- The forms of a length.  The shortest one is not always taken: where the driver
writes three bytes behind the marker, a server writes two for 65535. -/
def IsLength (n : Nat) (header : Bytes) : Prop :=
  (n < 251 ∧ header = [toByte n]) ∨
    (n < 65536 ∧ header = 0xfc :: writeUIntLE n 2) ∨
    (n < 16777216 ∧ header = 0xfd :: writeUIntLE n 3) ∨
    (n < 9007199254740992 ∧ header = 0xfe :: writeUIntLE n 8)

/-- A length-coded column: the length of a text, and the text. -/
def IsCell (content cell : Bytes) : Prop :=
  ∃ header, IsLength content.length header ∧ cell = header ++ content

theorem IsCell.ne_nil {content cell : Bytes} (isCell : IsCell content cell) : cell ≠ [] := by
  obtain ⟨header, isLength, rfl⟩ := isCell
  rcases isLength with ⟨_, rfl⟩ | ⟨_, rfl⟩ | ⟨_, rfl⟩ | ⟨_, rfl⟩ <;> exact List.cons_ne_nil _ _

theorem isCell_writeLengthCodedBuffer {content : Bytes} (safe : content.length < 9007199254740992) :
    IsCell content (writeLengthCodedBuffer content) := by
  refine ⟨_, ?_, rfl⟩
  rw [writeLengthCodedNumber]
  split
  case isTrue one => exact .inl ⟨one, rfl⟩
  case isFalse =>
    split
    case isTrue two => exact .inr (.inl ⟨by omega, rfl⟩)
    case isFalse =>
      split
      case isTrue three => exact .inr (.inr (.inl ⟨by omega, rfl⟩))
      case isFalse => exact .inr (.inr (.inr ⟨safe, rfl⟩))

namespace Reads

section Rules

variable {reader : Reader β} {next : β → Reader γ} {bytes more : Bytes} {value : β}

theorem pure (value : β) : Reads (pure value) [] (.ok value) := by
  intro packet rest aheadEq inside
  rfl

theorem throw (error : JsError) : Reads (throw error : Reader β) [] (.error error) := by
  intro packet rest aheadEq inside
  rfl

theorem lift (result : Except JsError β) : Reads (StateT.lift result) [] result := by
  intro packet rest aheadEq inside
  cases result <;> rfl

/-- A reader makes one thing of given bytes. -/
theorem unique {first second : Except JsError β} (firstReads : Reads reader bytes first)
    (secondReads : Reads reader bytes second) : first = second := by
  have run := (firstReads (packetOf bytes) [] (ahead_packetOf bytes) (Nat.le_refl _)).symm.trans
    (secondReads (packetOf bytes) [] (ahead_packetOf bytes) (Nat.le_refl _))
  cases first with
  | error error =>
      cases second with
      | error other =>
          obtain rfl : error = other := Except.error.inj run
          rfl
      | ok value => cases run
  | ok value =>
      cases second with
      | error error => cases run
      | ok other =>
          obtain ⟨rfl, -⟩ := Prod.mk.inj (Except.ok.inj run)
          rfl

theorem bind {result : Except JsError γ} (first : Reads reader bytes (.ok value))
    (second : Reads (next value) more result) : Reads (reader >>= next) (bytes ++ more) result := by
  intro packet rest aheadEq inside
  rw [List.append_assoc] at aheadEq
  rw [List.length_append] at inside ⊢
  have firstRun : reader.run packet = .ok (value, packet.advance bytes.length) :=
    first packet _ aheadEq (by omega)
  have behind := ahead_advance_of_append _ aheadEq rfl
  have secondRun := second _ rest behind (by rw [offset_advance, endOffset_advance]; omega)
  rw [run_bind_of_ok firstRun, secondRun, advance_advance]

theorem bind_error {error : JsError} (first : Reads reader bytes (.error error)) :
    Reads (reader >>= next) bytes (.error error) := by
  intro packet rest aheadEq inside
  have firstRun : reader.run packet = .error error := first packet rest aheadEq inside
  rw [run_bind_of_error firstRun]
  rfl

/-- What is computed from a value takes no bytes. -/
theorem bind_nil {result : Except JsError γ} (first : Reads reader bytes (.ok value))
    (second : Reads (next value) [] result) : Reads (reader >>= next) bytes result := by
  rw [← List.append_nil bytes]
  exact first.bind second

theorem andThen {result : Except JsError β} {results : β → Except JsError γ}
    (first : Reads reader bytes result) (second : ∀ value, Reads (next value) [] (results value)) :
    Reads (reader >>= next) bytes (result >>= results) := by
  cases result with
  | error error => exact first.bind_error
  | ok value => exact first.bind_nil (second value)

theorem map {result : Except JsError β} (f : β → γ) (first : Reads reader bytes result) :
    Reads (do return f (← reader)) bytes (result.map f) := by
  intro packet rest aheadEq inside
  have firstRun := first packet rest aheadEq inside
  cases result with
  | error error =>
      rw [run_bind_of_error firstRun]
      rfl
  | ok value =>
      rw [run_bind_of_ok firstRun]
      rfl

end Rules

/-! ## Bytes and lengths -/

theorem skip (bytes : Bytes) : Reads (Packet.skip bytes.length) bytes (.ok ()) := by
  intro packet rest aheadEq inside
  exact skip_run packet _

theorem readInt8 (byte : UInt8) : Reads Packet.readInt8 [byte] (.ok (some byte.toNat)) := by
  intro packet rest aheadEq inside
  exact readInt8_run_cons aheadEq

theorem readInt16 {bytes : Bytes} (length : bytes.length = 2) :
    Reads Packet.readInt16 bytes (.ok (uintLE bytes)) := by
  intro packet rest aheadEq inside
  rw [readInt16_run aheadEq length, length]
  rfl

theorem readInt32 {bytes : Bytes} (length : bytes.length = 4) :
    Reads Packet.readInt32 bytes (.ok (uintLE bytes)) := by
  intro packet rest aheadEq inside
  rw [readInt32_run aheadEq length, length]
  rfl

theorem readBuffer (bytes : Bytes) : Reads (Packet.readBuffer bytes.length) bytes (.ok bytes) := by
  intro packet rest aheadEq inside
  exact readBuffer_run aheadEq

theorem readLength {n : Nat} {header : Bytes} (isLength : IsLength n header)
    (bigNumberStrings signed : Bool) :
    Reads (readLengthCodedNumber bigNumberStrings signed) header (.ok (.number n)) := by
  intro packet rest aheadEq inside
  rcases isLength with ⟨one, rfl⟩ | ⟨two, rfl⟩ | ⟨three, rfl⟩ | ⟨eight, rfl⟩
  · exact readLengthCodedNumber_one _ _ aheadEq one
  · rw [readLengthCodedNumber_two _ _ aheadEq two, List.length_cons, length_writeUIntLE]
    rfl
  · rw [readLengthCodedNumber_three _ _ aheadEq three, List.length_cons, length_writeUIntLE]
    rfl
  · rw [readLengthCodedNumber_eight _ _ aheadEq (by omega), lengthCoded64_words eight,
      List.length_cons, length_writeUIntLE]
    rfl

section Cells

variable {content cell : Bytes} (isCell : IsCell content cell)

include isCell

/-- A column is read by its length and its text. -/
theorem column {next : LengthCoded → Reader γ} {result : Except JsError γ}
    (reads : Reads (next (.number content.length)) content result) :
    Reads (readLengthCodedNumber false false >>= next) cell result := by
  obtain ⟨header, isLength, rfl⟩ := isCell
  exact (readLength isLength false false).bind reads

theorem readLengthCodedBuffer :
    Reads (Packet.readLengthCodedBuffer (α := α)) cell (.ok (.buffer content)) :=
  column isCell ((readBuffer content).map Value.buffer)

theorem readLengthCodedString (decoding : Decoding) (encoding : Option String) :
    Reads (Packet.readLengthCodedString decoding encoding) cell
      ((decoding.decode encoding content).map some) := by
  apply column isCell
  exact (readBuffer content).andThen fun bytes => (lift (decoding.decode encoding bytes)).map some

theorem readStringValue (runtime : Runtime α) (encoding : Option String) :
    Reads (Packet.readStringValue runtime encoding) cell
      ((runtime.decode encoding content).map .string) := by
  have reads := (readLengthCodedString isCell runtime.toDecoding encoding).map
    (stringValue (α := α))
  cases text : runtime.decode encoding content with
  | error error => rwa [text] at reads
  | ok text' => rwa [text] at reads

theorem parseGeometryValue (runtime : Runtime α) :
    Reads (Packet.parseGeometryValue runtime) cell
      (if content = [] then .ok .null else runtime.geometry content) := by
  have buffer := readLengthCodedBuffer (α := α) isCell
  cases content with
  | nil =>
      rw [if_pos rfl]
      exact buffer.bind_nil (pure Value.null)
  | cons byte content =>
      rw [if_neg (List.cons_ne_nil _ _)]
      exact buffer.bind_nil (lift (runtime.geometry (byte :: content)))

theorem parseJson (runtime : Runtime α) (encoding : Option String) (supportBigNumbers : Bool) :
    Reads (Packet.parseJson runtime encoding supportBigNumbers) cell
      (runtime.decode encoding content >>= fun text =>
        runtime.jsonParse (supportBigNumbers && runtime.jsonSourceAccessSupported &&
          hasBigNumeral 0 text.toList) (some text)) := by
  have string := readLengthCodedString isCell runtime.toDecoding encoding
  cases text : runtime.decode encoding content with
  | error error =>
      rw [text] at string
      exact string.bind_error
  | ok text' =>
      rw [text] at string
      exact string.bind_nil (lift _)

end Cells

end Reads

/-- A column has one text. -/
theorem IsCell.unique {content other cell : Bytes} (isCell : IsCell content cell)
    (isOther : IsCell other cell) : content = other := by
  have same := (Reads.readLengthCodedBuffer (α := Unit) isCell).unique
    (Reads.readLengthCodedBuffer isOther)
  exact Value.buffer.inj (Except.ok.inj same)

/-! ## Numbers of texts -/

/-- Whether a text starts with a sign. -/
def startsWith (sign : Nat) (content : Bytes) : Bool :=
  content.head?.map UInt8.toNat = some sign

/-- A text behind a sign that it may start with. -/
def behindSign (sign : Nat) : Bytes → Bytes
  | [] => []
  | byte :: bytes => if byte.toNat = sign then bytes else byte :: bytes

/-- A text behind its signs. -/
def unsignedText (content : Bytes) : Bytes :=
  behindSign plus (behindSign minus content)

/-- The factor that the sign of a text stands for. -/
def textSign (content : Bytes) : Int :=
  if startsWith minus content then -1 else 1

/-- The integer that the loop over a text makes of it. -/
def textInteger (content : Bytes) : Int :=
  (unsignedText content).foldl addDigit 0 * textSign content

/-- What `parseInt` makes of a text. -/
def parsedInteger (runtime : Runtime α) (supportBigNumbers : Bool) (content : Bytes) : Value α :=
  if 14 ≤ content.length ∧ !supportBigNumbers then
    runtime.toNumber (ascii content)
  else if content = [] then
    .number 0
  else if supportBigNumbers ∧ 15 ≤ (behindSign minus content).length then
    let text := latin1 (behindSign minus content)
    let signed := if textSign content = -1 then "-" ++ text else text
    match Script.parseInt text.toList with
    | some result =>
        if isSafeInteger (textSign content * result) then .number (textSign content * result)
        else .string signed
    | none => .string signed
  else if supportBigNumbers ∧ !isSafeInteger (textInteger content) then
    .string (ascii content)
  else
    .number (textInteger content)

theorem behindSign_ne_nil {sign : Nat} {content : Bytes} (nonempty : content ≠ [])
    (notSign : content ≠ [toByte sign]) (isByte : sign < 256) : behindSign sign content ≠ [] := by
  cases content with
  | nil => exact absurd rfl nonempty
  | cons byte bytes =>
      rw [behindSign]
      split
      case isFalse => exact List.cons_ne_nil _ _
      case isTrue isSign =>
        rintro rfl
        apply notSign
        congr 1
        apply UInt8.toNat_inj.mp
        rw [isSign, toByte_toNat, Nat.mod_eq_of_lt isByte]

section Numbers

variable {packet : Packet} {content rest : Bytes}

/-- A sign is looked for in a text that is not empty. -/
theorem skipSign_run (sign : Nat) (nonempty : content ≠ [])
    (aheadEq : packet.ahead = content ++ rest) :
    ∃ count, count + (behindSign sign content).length = content.length ∧
      (skipSign sign).run packet = .ok (startsWith sign content, packet.advance count) ∧
        (packet.advance count).ahead = behindSign sign content ++ rest := by
  cases content with
  | nil => exact absurd rfl nonempty
  | cons byte bytes =>
      have peeked : packet.peekByte = some byte.toNat := by rw [peekByte_eq, aheadEq]; rfl
      by_cases isSign : byte.toNat = sign
      · refine ⟨1, ?_, ?_, ?_⟩
        · rw [behindSign, if_pos isSign, List.length_cons, Nat.add_comm]
        · rw [skipSign_run_of_eq (by rw [peeked, isSign]), startsWith]
          simp [isSign]
        · rw [behindSign, if_pos isSign]
          exact ahead_advance_one aheadEq
      · refine ⟨0, ?_, ?_, ?_⟩
        · rw [behindSign, if_neg isSign, Nat.zero_add]
        · rw [skipSign_run_of_ne (by rw [peeked]; simpa using isSign), startsWith]
          simp [isSign]
        · rw [behindSign, if_neg isSign]
          exact aheadEq

theorem readMinus_text_run (nonempty : content ≠ []) (aheadEq : packet.ahead = content ++ rest) :
    ∃ count, count + (behindSign minus content).length = content.length ∧
      readMinus.run packet = .ok (textSign content, packet.advance count) ∧
        (packet.advance count).ahead = behindSign minus content ++ rest := by
  obtain ⟨count, countEq, run, behind⟩ := skipSign_run minus nonempty aheadEq
  refine ⟨count, countEq, ?_, behind⟩
  rw [readMinus, run_bind_of_ok run]
  rfl

/-- The bytes ahead, by their place in the buffer. -/
theorem slice_of_ahead (aheadEq : packet.ahead = content ++ rest) :
    slice packet.buffer packet.offset (packet.offset + content.length) = content := by
  rw [slice, Nat.add_sub_cancel_left]
  show packet.ahead.take content.length = content
  rw [aheadEq, List.take_left]

/-- The loop over the rest of a text. -/
theorem addDigits_text_run (aheadEq : packet.ahead = content ++ rest) :
    (addDigits (packet.offset + content.length)).run packet =
      .ok (some (content.foldl addDigit 0), packet.advance content.length) := by
  have count : packet.offset + content.length - packet.offset = content.length := by omega
  rw [addDigits, run_get_bind, count, run_bind_of_ok (readBuffer_run aheadEq),
    if_neg (Nat.lt_irrefl _)]
  rfl

/-- A plus sign and digits, as both loops read them. -/
theorem readDigits_run (next : Option Int → Reader γ) (nonempty : content ≠ [])
    (aheadEq : packet.ahead = content ++ rest) :
    (skipSign plus >>= fun _ => addDigits (packet.offset + content.length) >>= next).run packet =
      (next (some ((behindSign plus content).foldl addDigit 0))).run
        (packet.advance content.length) := by
  obtain ⟨count, countEq, signRun, behind⟩ := skipSign_run plus nonempty aheadEq
  have digitsRun := addDigits_text_run behind
  rw [offset_advance, Nat.add_assoc, countEq, advance_advance, countEq] at digitsRun
  rw [run_bind_of_ok signRun, run_bind_of_ok digitsRun]

theorem parseFloat_run (runtime : Runtime α) (notMinus : content ≠ [0x2d])
    (aheadEq : packet.ahead = content ++ rest) :
    (Packet.parseFloat runtime (.number content.length)).run packet =
      .ok (if content = [] then .number 0 else runtime.decimal content,
        packet.advance content.length) := by
  by_cases empty : content = []
  · subst empty
    rfl
  · show StateT.run (if content.length = 0 then _ else if 17 < content.length then _ else _)
      packet = _
    rw [if_neg (by simpa using empty), if_neg empty]
    by_cases long : 17 < content.length
    · rw [if_pos long, toNat_number, run_bind_of_ok (readBuffer_run aheadEq)]
      rfl
    · have unsigned : behindSign minus content ≠ [] := behindSign_ne_nil empty notMinus (by decide)
      obtain ⟨first, firstEq, firstRun, firstAhead⟩ := skipSign_run minus empty aheadEq
      obtain ⟨second, secondEq, secondRun, secondAhead⟩ := skipSign_run plus unsigned firstAhead
      rw [if_neg long, run_get_bind, run_bind_of_ok firstRun, run_bind_of_ok secondRun,
        run_modify_bind, toNat_number, slice_of_ahead aheadEq, advance_advance, offset_advance,
        Nat.max_eq_right (by omega)]
      rfl

end Numbers

namespace Reads

variable {content : Bytes}

theorem parseIntNoBigCheck (notMinus : content ≠ [0x2d]) :
    Reads (Packet.parseIntNoBigCheck (α := α) (.number content.length)) content
      (.ok (.number (textInteger content))) := by
  intro packet rest aheadEq inside
  by_cases empty : content = []
  · subst empty
    rfl
  · have unsigned : behindSign minus content ≠ [] := behindSign_ne_nil empty notMinus (by decide)
    obtain ⟨first, firstEq, signRun, behind⟩ := readMinus_text_run empty aheadEq
    have lastEq : packet.offset + content.length =
        (packet.advance first).offset + (behindSign minus content).length := by
      rw [offset_advance]
      omega
    show StateT.run (if content.length = 0 then _ else _) packet = _
    rw [if_neg (by simpa using empty), run_get_bind, run_bind_of_ok signRun, toNat_number, lastEq,
      readDigits_run _ unsigned behind, advance_advance, firstEq]
    rfl

/-- The branches of `parseInt`, which are told apart by the text. -/
theorem parseInt (runtime : Runtime α) (supportBigNumbers : Bool)
    (notMinus : content ≠ [0x2d]) :
    Reads (Packet.parseInt runtime (.number content.length) supportBigNumbers) content
      (.ok (parsedInteger runtime supportBigNumbers content)) := by
  intro packet rest aheadEq inside
  show StateT.run (if 14 ≤ content.length ∧ (!supportBigNumbers) = true then _ else
    if content.length = 0 then _ else _) packet = _
  rw [parsedInteger]
  by_cases inexact : 14 ≤ content.length ∧ (!supportBigNumbers) = true
  · rw [if_pos inexact, if_pos inexact, toNat_number, run_bind_of_ok (readBuffer_run aheadEq)]
    rfl
  · rw [if_neg inexact, if_neg inexact]
    by_cases empty : content = []
    · subst empty
      rfl
    · rw [if_neg (by simpa using empty), if_neg empty, run_get_bind]
      have unsigned : behindSign minus content ≠ [] := behindSign_ne_nil empty notMinus (by decide)
      obtain ⟨first, firstEq, firstRun, firstAhead⟩ := readMinus_text_run empty aheadEq
      have numDigits : packet.offset + content.length - (packet.offset + first) =
          (behindSign minus content).length := by omega
      rw [run_bind_of_ok firstRun, run_get_bind, toNat_number, offset_advance, numDigits]
      by_cases long : supportBigNumbers = true ∧ 15 ≤ (behindSign minus content).length
      · rw [if_pos long, if_pos long, run_bind_of_ok (readBuffer_run firstAhead), advance_advance,
          firstEq]
        dsimp only
        cases Script.parseInt (latin1 (behindSign minus content)).toList with
        | none => rfl
        | some result =>
            dsimp only
            split <;> rfl
      · rw [if_neg long, if_neg long]
        have lastEq : packet.offset + content.length =
            (packet.advance first).offset + (behindSign minus content).length := by
          rw [offset_advance]
          omega
        rw [lastEq, readDigits_run _ unsigned firstAhead, advance_advance, firstEq, ← lastEq]
        show StateT.run (if supportBigNumbers = true ∧ (!isSafeInteger (textInteger content)) = true
          then get >>= _ else _) _ = _
        split
        · rw [run_get_bind, buffer_advance, slice_of_ahead aheadEq]
          rfl
        · rfl

/-- A text that `parseInt` has not looked at before its length. -/
theorem parseFloat (runtime : Runtime α) (notMinus : content ≠ [0x2d]) :
    Reads (Packet.parseFloat runtime (.number content.length)) content
      (.ok (if content = [] then .number 0 else runtime.decimal content)) :=
  fun _ _ aheadEq _ => parseFloat_run runtime notMinus aheadEq

/-! ## Dates -/

/-- The value of a number that a part of a date makes. -/
def partValue (runtime : Runtime α) (part : Bytes) : Option Int :=
  (parsedInteger runtime false part).toNumber

/-- What `parseDate` makes of the numbers of a text. -/
def dateValue (runtime : Runtime α) (timezone : Option JsString) (y m d : Option Int) : Value α :=
  if isLocal timezone then .date (runtime.localTime ⟨y, m, d, some 0, some 0, some 0, some 0⟩)
  else if isUTC timezone then .date (runtime.utcTime ⟨y, m, d, some 0, some 0, some 0, some 0⟩)
  else
    let text := leftPad 4 (numberText y) ++ "-" ++ leftPad 2 (numberText m) ++ "-" ++
      leftPad 2 (numberText d) ++ "T00:00:00"
    .date (runtime.dateParse (withTimezone text timezone))

/-- A text of ten bytes, in the parts that `parseDate` reads. -/
theorem parseDate (runtime : Runtime α) (timezone : Option JsString) {content cell : Bytes}
    (isCell : IsCell content cell) (length : content.length = 10) :
    Reads (Packet.parseDate runtime timezone) cell (.ok (dateValue runtime timezone
      (partValue runtime (content.take 4)) (partValue runtime ((content.drop 5).take 2))
      (partValue runtime (content.drop 8)))) := by
  apply column isCell
  match content, length with
  | [y0, y1, y2, y3, dash, m0, m1, dash', d0, d1], _ =>
      have year : Reads (Packet.parseInt runtime (.number 4) false) [y0, y1, y2, y3]
          (.ok (parsedInteger runtime false [y0, y1, y2, y3])) :=
        parseInt runtime false (by simp)
      have month : Reads (Packet.parseInt runtime (.number 2) false) [m0, m1]
          (.ok (parsedInteger runtime false [m0, m1])) :=
        parseInt runtime false (by simp)
      have day : Reads (Packet.parseInt runtime (.number 2) false) [d0, d1]
          (.ok (parsedInteger runtime false [d0, d1])) :=
        parseInt runtime false (by simp)
      refine year.bind ((skip [dash]).bind (month.bind ((skip [dash']).bind (day.bind_nil ?_))))
      simp only [dateValue]
      split
      · exact pure _
      · split
        · exact pure _
        · exact pure _

theorem digitsValue_append {content : Bytes} (rest : Bytes) {first count : Nat}
    (inside : first + count ≤ content.length) :
    digitsValue (content ++ rest) first count = digitsValue content first count := by
  induction count with
  | zero => rfl
  | succ count ih =>
      have digit : digitValue (content ++ rest) (first + count) =
          digitValue content (first + count) := by
        rw [digitValue, digitValue, List.getElem?_append_left (by omega)]
      rw [digitsValue, digitsValue, ih (by omega), digit]

/-- Behind its text `parseDateTime` looks at no byte. -/
theorem dateTimeValue_append (runtime : Runtime α) (timezone : Option JsString) {content : Bytes}
    (rest : Bytes) (long : 19 ≤ content.length) :
    dateTimeValue runtime (content ++ rest) content.length timezone =
      dateTimeValue runtime content content.length timezone := by
  have fractionEq : fraction (content ++ rest) content.length =
      fraction content content.length := by
    rw [fraction, fraction]
    split
    · dsimp only
      rw [digitsValue_append rest (by omega)]
    · rfl
  rw [dateTimeValue, dateTimeValue, fractionEq, List.take_left, List.take_length,
    digitsValue_append rest (by omega), digitsValue_append rest (by omega),
    digitsValue_append rest (by omega), digitsValue_append rest (by omega),
    digitsValue_append rest (by omega), digitsValue_append rest (by omega)]

/-- What `parseDateTime` makes of a text. -/
def parsedDateTime (runtime : Runtime α) (timezone : Option JsString) (content : Bytes) : Value α :=
  if 19 ≤ content.length ∧ content[4]? = some 0x2d ∧ content[7]? = some 0x2d ∧
      content[13]? = some 0x3a ∧ content[16]? = some 0x3a then
    dateTimeValue runtime content content.length timezone
  else
    parsedDate runtime (latin1 content) timezone

theorem parseDateTime (runtime : Runtime α) (timezone : Option JsString) {content cell : Bytes}
    (isCell : IsCell content cell) :
    Reads (Packet.parseDateTime runtime timezone) cell
      (.ok (parsedDateTime runtime timezone content)) := by
  apply column isCell
  intro packet rest aheadEq inside
  have getElem? : ∀ index, 19 ≤ content.length → index < 19 →
      (content ++ rest)[index]? = content[index]? := by
    intro index long small
    exact List.getElem?_append_left (by omega)
  have format : (19 ≤ content.length ∧ (content ++ rest)[4]? = some 0x2d ∧
      (content ++ rest)[7]? = some 0x2d ∧ (content ++ rest)[13]? = some 0x3a ∧
        (content ++ rest)[16]? = some 0x3a) ↔
      (19 ≤ content.length ∧ content[4]? = some 0x2d ∧ content[7]? = some 0x2d ∧
        content[13]? = some 0x3a ∧ content[16]? = some 0x3a) := by
    apply and_congr_right
    intro long
    rw [getElem? 4 long (by decide), getElem? 7 long (by decide), getElem? 13 long (by decide),
      getElem? 16 long (by decide)]
  show StateT.run (get >>= _) packet = _
  rw [run_get_bind, run_bind_of_ok (skip_run _ _), toNat_number, aheadEq, parsedDateTime,
    List.take_left]
  simp only [format]
  split
  case isTrue wire =>
    rw [dateTimeValue_append runtime timezone rest wire.1]
    rfl
  case isFalse => rfl

/-! ## Vectors -/

/-- The floating point numbers of a vector. -/
def vectorElements (runtime : Runtime α) : Nat → Bytes → List α
  | 0, _ => []
  | count + 1, bytes =>
      runtime.readFloatLE (bytes.take 4) :: vectorElements runtime count (bytes.drop 4)

theorem readFloat (runtime : Runtime α) {bytes : Bytes} (length : bytes.length = 4) :
    Reads (Packet.readFloat runtime) bytes (.ok (runtime.readFloatLE bytes)) := by
  intro packet rest aheadEq inside
  have nonempty : bytes ≠ [] := by
    rintro rfl
    cases length
  have within := offset_add_le aheadEq nonempty
  have bufferRun := readBuffer_run aheadEq
  rw [length] at within bufferRun
  rw [Packet.readFloat, run_get_bind, if_pos within, run_bind_of_ok bufferRun, length]
  rfl

/-- One round of the loop for every four bytes. -/
theorem readFloats_run (runtime : Runtime α) {count fuel : Nat} (enough : count ≤ fuel)
    {packet : Packet} {content rest : Bytes} (length : content.length = 4 * count)
    (aheadEq : packet.ahead = content ++ rest)
    (inside : packet.offset + content.length ≤ packet.endOffset) :
    (readFloats runtime (packet.offset + content.length) fuel).run packet =
      .ok (vectorElements runtime count content, packet.advance content.length) := by
  induction count generalizing fuel packet content with
  | zero =>
      obtain rfl := List.length_eq_zero_iff.mp length
      cases fuel with
      | zero => rfl
      | succ fuel =>
          rw [readFloats, run_get_bind, if_neg (by simp)]
          rfl
  | succ count ih =>
      cases fuel with
      | zero => omega
      | succ fuel =>
          have headLength : (content.take 4).length = 4 := by
            rw [List.length_take]
            omega
          have tailLength : (content.drop 4).length = 4 * count := by
            rw [List.length_drop]
            omega
          have headAhead : packet.ahead = content.take 4 ++ (content.drop 4 ++ rest) := by
            rw [← List.append_assoc, List.take_append_drop, aheadEq]
          have floatRun : (Packet.readFloat runtime).run packet =
              .ok (runtime.readFloatLE (content.take 4), packet.advance 4) := by
            have run := readFloat runtime headLength packet _ headAhead (by omega)
            rwa [headLength] at run
          have tailAhead := ahead_advance_of_append _ headAhead headLength
          have tailRun := ih (show count ≤ fuel by omega) tailLength tailAhead
            (by rw [offset_advance, endOffset_advance]; omega)
          have total : 4 + (content.drop 4).length = content.length := by omega
          rw [offset_advance, Nat.add_assoc, total, advance_advance, total] at tailRun
          rw [readFloats, run_get_bind, if_pos (by omega), run_bind_of_ok floatRun,
            run_bind_of_ok tailRun]
          rfl

theorem parseVector (runtime : Runtime α) {content cell : Bytes} (isCell : IsCell content cell)
    (whole : 4 ∣ content.length) :
    Reads (Packet.parseVector runtime) cell
      (.ok (.array (vectorElements runtime (content.length / 4) content))) := by
  apply column isCell
  intro packet rest aheadEq inside
  have count : content.length = 4 * (content.length / 4) := (Nat.mul_div_cancel' whole).symm
  have floatsRun := readFloats_run runtime
    (show content.length / 4 ≤ packet.offset + content.length by omega) count aheadEq inside
  rw [run_get_bind, toNat_number, run_bind_of_ok floatsRun]
  rfl

end Reads

end Mysql2.Packets
