import Mathlib.Data.List.DropRight
import Mysql2.Packets.Reads
import Mysql2.Packets.TypedValues
import Mysql2.Parsers.ServerDates

/-!
# Times as strings

The text of a time, written as a parameter, comes back from `readTimeString` in one form: without
a sign for zero, with two digits for all but the hours, and without zeros behind the fraction.
-/

namespace Mysql2.Parsers

open Mysql2.Packets Mysql2.Packets.Packet Mysql2.Script

/-! ## Texts of times -/

/-- The characters of digits. -/
def digitChars (digits : List (Fin 10)) : List Char :=
  digits.map fun digit => digit.val.digitChar

end Mysql2.Parsers

namespace Mysql2.Packets.TimeMatch

open Mysql2.Parsers Mysql2.Script

/-- The text of a fraction. -/
def fractionUnits : Option (List (Fin 10)) → JsString
  | none => []
  | some digits => pointUnit :: digitUnits digits

/-- The text that is matched. -/
def text (time : TimeMatch) : JsString :=
  (if time.negative then [minusUnit] else []) ++ digitUnits time.hours ++ colonUnit ::
    (digitUnits time.minutes ++ colonUnit :: (digitUnits time.seconds ++ fractionUnits time.fraction))

/-- The digits of the fraction without zeros behind them. -/
def shortFraction (time : TimeMatch) : List (Fin 10) :=
  (time.fraction.getD []).rdropWhile fun digit => digit = zeroDigit

/-- Whether a time is zero. -/
def IsZero (time : TimeMatch) : Prop :=
  numeral time.hours = 0 ∧ numeral time.minutes = 0 ∧ numeral time.seconds = 0 ∧
    time.shortFraction = []

instance (time : TimeMatch) : Decidable time.IsZero :=
  inferInstanceAs (Decidable (_ ∧ _))

/-- The canonical form of a time. -/
def canonical (time : TimeMatch) : String :=
  (if time.negative ∧ ¬time.IsZero then "-" else "") ++
    leftPad 2 (toString (numeral time.hours)) ++ ":" ++
    leftPad 2 (toString (numeral time.minutes)) ++ ":" ++
    leftPad 2 (toString (numeral time.seconds)) ++
    if time.shortFraction = [] then "" else "." ++ String.ofList (digitChars time.shortFraction)

end Mysql2.Packets.TimeMatch

namespace Mysql2.Parsers

open Mysql2.Packets Mysql2.Packets.Packet Mysql2.Script

/-! ## The pattern -/

theorem behindUnit_eq_some {unit : UInt16} {text rest : JsString}
    (found : behindUnit unit text = some rest) : text = unit :: rest := by
  cases text with
  | nil => cases found
  | cons first text =>
      rw [behindUnit] at found
      split at found
      · next same =>
          cases found
          rw [same]
      · cases found

theorem eq_append_of_signMatch (text : JsString) :
    text = (if (signMatch text).1 then [minusUnit] else []) ++ (signMatch text).2 := by
  cases text with
  | nil => rfl
  | cons unit text =>
      rw [signMatch]
      split
      · next isMinus => rw [isMinus]; rfl
      · rfl

theorem fractionMatch_eq_some {text : JsString} {fraction : Option (List (Fin 10))}
    (found : fractionMatch text = some fraction) : text = TimeMatch.fractionUnits fraction := by
  cases text with
  | nil =>
      cases found
      rfl
  | cons unit text =>
      rw [fractionMatch] at found
      split at found
      · next isFraction =>
          obtain ⟨rfl, isEnd⟩ := isFraction
          obtain rfl := Option.some.inj found
          have whole := eq_spanDigits_append text
          rw [isEnd, List.append_nil] at whole
          exact congrArg (pointUnit :: ·) whole
      · cases found

/-- The pattern matches texts of times. -/
theorem eq_text_of_match {text : JsString} {time : TimeMatch}
    (found : TIME_PATTERN text = some time) : time.isTime = true ∧ text = time.text := by
  rw [TIME_PATTERN] at found
  obtain ⟨behindHours, atHours, found⟩ := Option.bind_eq_some_iff.mp found
  obtain ⟨behindMinutes, atMinutes, found⟩ := Option.bind_eq_some_iff.mp found
  obtain ⟨fraction, atSeconds, found⟩ := Option.bind_eq_some_iff.mp found
  dsimp only at found
  split at found
  · next isTime =>
      obtain rfl := Option.some.inj found
      refine ⟨isTime, ?_⟩
      have hours := eq_spanDigits_append (signMatch text).2
      have minutes := eq_spanDigits_append behindHours
      have seconds := eq_spanDigits_append behindMinutes
      rw [behindUnit_eq_some atHours] at hours
      rw [behindUnit_eq_some atMinutes] at minutes
      rw [fractionMatch_eq_some atSeconds] at seconds
      rw [TimeMatch.text, ← seconds, ← minutes, List.append_assoc, ← hours]
      exact eq_append_of_signMatch text
  · cases found

/-! ## Numbers of digits -/

theorem ofDigitChars_digitChars (digits : List (Fin 10)) :
    Nat.ofDigitChars 10 (digitChars digits) 0 = numeral digits := by
  rw [numeral]
  generalize 0 = start
  induction digits generalizing start with
  | nil => exact Nat.ofDigitChars_nil
  | cons digit digits ih =>
      rw [digitChars, List.map_cons, Nat.ofDigitChars_cons_digitChar_of_lt_ten digit.isLt]
      exact ih _

theorem isDigit_digitChar (digit : Fin 10) : digit.val.digitChar.isDigit = true := by
  revert digit
  decide

theorem isDigit_of_mem_digitChars {digits : List (Fin 10)} {char : Char}
    (member : char ∈ digitChars digits) : char.isDigit = true := by
  obtain ⟨digit, -, rfl⟩ := List.mem_map.mp member
  exact isDigit_digitChar digit

theorem length_digitChars (digits : List (Fin 10)) : (digitChars digits).length = digits.length :=
  List.length_map _

theorem numeral_lt (digits : List (Fin 10)) : numeral digits < 10 ^ digits.length := by
  have allDigits : ∀ char ∈ digitChars digits, char.isDigit = true :=
    fun _ => isDigit_of_mem_digitChars
  have below := ofDigitChars_lt allDigits
  rwa [ofDigitChars_digitChars, length_digitChars] at below

/-- Numerals of one length are told apart by their numbers. -/
theorem eq_of_ofDigitChars {first second : List Char} (length : first.length = second.length)
    (firstDigits : ∀ char ∈ first, char.isDigit = true)
    (secondDigits : ∀ char ∈ second, char.isDigit = true)
    (same : Nat.ofDigitChars 10 first 0 = Nat.ofDigitChars 10 second 0) : first = second := by
  induction first generalizing second with
  | nil => exact (List.length_eq_zero_iff.mp length.symm).symm
  | cons char first ih =>
      cases second with
      | nil => cases length
      | cons other second =>
          obtain ⟨isDigit, digits⟩ := List.forall_mem_cons.mp firstDigits
          obtain ⟨otherDigit, otherDigits⟩ := List.forall_mem_cons.mp secondDigits
          have range := toNat_of_isDigit isDigit
          have otherRange := toNat_of_isDigit otherDigit
          have lengths : first.length = second.length := Nat.succ.inj length
          have below := ofDigitChars_lt digits
          have otherBelow := ofDigitChars_lt otherDigits
          have zero : '0'.toNat = 48 := rfl
          rw [Nat.ofDigitChars_cons, Nat.ofDigitChars_cons, Nat.ofDigitChars_eq_ofDigitChars_zero,
            Nat.ofDigitChars_eq_ofDigitChars_zero (l := second), zero, Nat.mul_zero, Nat.zero_add,
            Nat.zero_add, lengths] at same
          rw [lengths] at below
          have power : 0 < 10 ^ second.length := Nat.pow_pos (by decide)
          have quotient := congrArg (· / 10 ^ second.length) same
          have rest := congrArg (· % 10 ^ second.length) same
          rw [Nat.mul_add_div power, Nat.mul_add_div power, Nat.div_eq_of_lt below,
            Nat.div_eq_of_lt otherBelow] at quotient
          rw [Nat.mul_add_mod, Nat.mul_add_mod, Nat.mod_eq_of_lt below,
            Nat.mod_eq_of_lt otherBelow] at rest
          have sameChar : char = other := Char.toNat_inj.mp (by omega)
          rw [sameChar, ih lengths digits otherDigits rest]

/-- A numeral of the full width has no zeros put in front. -/
theorem padded_numeral {digits : List (Fin 10)} (positive : 0 < digits.length) :
    padded digits.length (numeral digits) = digitChars digits := by
  apply eq_of_ofDigitChars
  · rw [length_padded positive (numeral_lt digits), length_digitChars]
  · exact fun char => isDigit_of_mem_padded
  · exact fun char => isDigit_of_mem_digitChars
  · rw [ofDigitChars_padded, ofDigitChars_digitChars]

theorem foldl_eq_zero_iff {digits : List (Fin 10)} {start : Nat} :
    digits.foldl (fun (number : Nat) (digit : Fin 10) => 10 * number + digit) start = 0 ↔
      start = 0 ∧ ∀ digit ∈ digits, digit = 0 := by
  induction digits generalizing start with
  | nil => simp
  | cons digit digits ih =>
      have value : digit = 0 ↔ digit.val = 0 := Fin.val_eq_zero_iff.symm
      have sum : 10 * start + digit.val = 0 ↔ start = 0 ∧ digit.val = 0 := by omega
      rw [List.foldl_cons, ih, List.forall_mem_cons, value, sum, and_assoc]

theorem numeral_eq_zero_iff {digits : List (Fin 10)} :
    numeral digits = 0 ↔ ∀ digit ∈ digits, digit = 0 :=
  foldl_eq_zero_iff.trans (and_iff_right rfl)

theorem numberOfDigits_of_lt {digits : List (Fin 10)} (small : numeral digits < 9007199254740992) :
    numberOfDigits digits = .finite (numeral digits) := by
  have bits : (numeral digits).log2 < 1024 := by
    by_cases zero : numeral digits = 0
    · rw [zero]
      decide
    · exact Nat.lt_trans ((Nat.log2_lt zero).mpr small) (show 53 < 1024 by decide)
  rw [numberOfDigits, roundNat_of_lt small]
  exact if_pos bits

/-! ## Parts of a text -/

/-- A quotient with few digits is rounded to the same side of every integer. -/
theorem floor_nearest_div (hours : Nat) (small : hours < 2 ^ 40) :
    ⌊nearest ((hours : ℚ) / 24)⌋ = (hours / 24 : Nat) := by
  have parts : (hours : ℚ) = 24 * (hours / 24 : Nat) + (hours % 24 : Nat) := by
    exact_mod_cast (Nat.div_add_mod hours 24).symm
  have hourOfDay : ((hours % 24 : Nat) : ℚ) ≤ 23 := by
    exact_mod_cast Nat.le_of_lt_succ (Nat.mod_lt hours (by decide : 24 > 0))
  have daysSmall : hours / 24 < 2 ^ 40 := by omega
  generalize hours / 24 = days at parts daysSmall ⊢
  have hourNonneg : (0 : ℚ) ≤ (hours % 24 : Nat) := Nat.cast_nonneg _
  have nonneg : (0 : ℚ) ≤ hours / 24 := by positivity
  have isDays : IsMagnitude days := isMagnitude_natCast (by omega)
  -- The greatest multiple of 1/64 below the next day is above the quotient.
  have isLate : IsMagnitude (days + 63 / 64) := by
    refine ⟨64 * days + 63, -6, by omega, by decide, ?_⟩
    push_cast
    norm_num
    ring
  have least := le_nearest isDays (show (days : ℚ) ≤ hours / 24 by linarith)
  have greatest := nearest_le nonneg isLate (show (hours : ℚ) / 24 ≤ days + 63 / 64 by linarith)
  rw [Int.floor_eq_iff]
  push_cast
  exact ⟨least, by linarith⟩

theorem floorDays_finite {hours : Nat} (small : hours < 2 ^ 40) :
    (WholeNumber.finite hours).floorDays = .finite (hours / 24) := by
  rw [WholeNumber.floorDays, floor_nearest_div hours small, Int.toNat_natCast]

theorem numeral_sexagesimal {digits : List (Fin 10)} (sexagesimal : isSexagesimal digits = true) :
    numeral digits < 60 := by
  match digits, sexagesimal with
  | [ones], _ =>
      have value : numeral [ones] = 10 * 0 + ones.val := rfl
      omega
  | [tens, ones], small =>
      have value : numeral [tens, ones] = 10 * (10 * 0 + tens.val) + ones.val := rfl
      have tensSmall : tens.val ≤ 5 := of_decide_eq_true small
      omega

end Mysql2.Parsers

namespace Mysql2.Packets.TimeMatch

open Mysql2.Parsers Mysql2.Script

/-- The microseconds of a fraction. -/
def micros (time : TimeMatch) : Nat :=
  numeral (padEnd (time.fraction.getD []))

/-- What the pattern asks for. -/
theorem isTime_iff {time : TimeMatch} :
    time.isTime = true ↔ time.hours ≠ [] ∧ isSexagesimal time.minutes = true ∧
      isSexagesimal time.seconds = true ∧
      ∀ digits ∈ time.fraction, 1 ≤ digits.length ∧ digits.length ≤ 6 := by
  obtain ⟨_, _, _, _, fraction⟩ := time
  cases fraction <;> simp [isTime, and_assoc]

theorem length_padEnd {time : TimeMatch} (isTime : time.isTime = true) :
    (padEnd (time.fraction.getD [])).length = 6 := by
  obtain ⟨-, -, -, short⟩ := isTime_iff.mp isTime
  have le : (time.fraction.getD []).length ≤ 6 := by
    cases isFraction : time.fraction with
    | none => exact Nat.zero_le _
    | some digits => exact (short digits isFraction).2
  rw [padEnd, List.length_append, List.length_replicate, Nat.add_sub_cancel' le]

theorem parts_eq {time : TimeMatch} (isTime : time.isTime = true)
    (small : numeral time.hours / 24 < 2 ^ 32) :
    time.parts =
      { negative := time.negative
        days := .finite (numeral time.hours / 24)
        hours := .finite (numeral time.hours % 24)
        minutes := .finite (numeral time.minutes)
        seconds := .finite (numeral time.seconds)
        microseconds := .finite time.micros } := by
  obtain ⟨-, minutes, seconds, -⟩ := isTime_iff.mp isTime
  have hoursBound : numeral time.hours < 2 ^ 40 := by omega
  have minutesBound := numeral_sexagesimal minutes
  have secondsBound := numeral_sexagesimal seconds
  have microsBound := numeral_lt (padEnd (time.fraction.getD []))
  rw [length_padEnd isTime] at microsBound
  have hours : numberOfDigits time.hours = .finite (numeral time.hours) :=
    numberOfDigits_of_lt (by omega)
  have parts : time.parts =
      ⟨time.negative, (numberOfDigits time.hours).floorDays, (numberOfDigits time.hours).hourOfDay,
        numberOfDigits time.minutes, numberOfDigits time.seconds, .finite time.micros⟩ := by
    cases isFraction : time.fraction with
    | none =>
        rw [TimeMatch.parts, micros, isFraction]
        rfl
    | some digits =>
        rw [isFraction] at microsBound
        have number : numberOfDigits (padEnd digits) = .finite (numeral (padEnd digits)) :=
          numberOfDigits_of_lt (Nat.lt_trans microsBound (by decide))
        rw [TimeMatch.parts, micros, isFraction]
        dsimp only
        rw [number]
        rfl
  rw [parts, hours, floorDays_finite hoursBound, numberOfDigits_of_lt (by omega),
    numberOfDigits_of_lt (by omega)]
  rfl

end Mysql2.Packets.TimeMatch

namespace Mysql2.Parsers

open Mysql2.Packets Mysql2.Packets.Packet Mysql2.Script

/-! ## Reading -/

/-- The string that is made of the fields of a time. -/
def timeString (negative : Bool) (hours minutes seconds micros : Nat) : String :=
  (if negative then "-" else "") ++ leftPad 2 (toString hours) ++ ":" ++
    leftPad 2 (toString minutes) ++ ":" ++ leftPad 2 (toString seconds) ++
    if micros = 0 then ""
    else "." ++ String.ofList
      ((leftPad 6 (toString micros)).toList.rdropWhile fun char => char = '0')

theorem reads_byteText (byte : Nat) :
    Reads (liftM (byteText (some byte)) : Reader String) [] (.ok (toString byte)) := by
  intro packet rest aheadEq inside
  rfl

/-- The flag of a negative time. -/
theorem any_flag (negative : Bool) :
    (some (if negative then (1 : UInt8) else 0).toNat).any (fun sign => sign ≠ 0) = negative := by
  cases negative <;> rfl

theorem reads_time_short (negative : Bool) {days : Bytes} (daysLength : days.length = 4)
    (hours minutes seconds : UInt8) :
    Reads readTimeString
      ([8] ++ ([if negative then 1 else 0] ++ (days ++ ([hours] ++ ([minutes] ++ [seconds])))))
      (.ok (timeString negative (uintLE days * 24 + hours.toNat) minutes.toNat seconds.toNat 0)) := by
  refine (Reads.readInt8 8).bind ((Reads.readInt8 _).bind ((Reads.readInt32 daysLength).bind
    ((Reads.readInt8 hours).bind ((Reads.readInt8 minutes).bind
      ((Reads.readInt8 seconds).bind_nil ?_)))))
  dsimp only
  rw [if_neg (by decide), any_flag]
  exact (reads_byteText _).bind_nil ((reads_byteText _).bind_nil (Reads.pure _))

theorem reads_time_long (negative : Bool) {days micros : Bytes} (daysLength : days.length = 4)
    (microsLength : micros.length = 4) (hours minutes seconds : UInt8) :
    Reads readTimeString
      ([12] ++ ([if negative then 1 else 0] ++
        (days ++ ([hours] ++ ([minutes] ++ ([seconds] ++ micros))))))
      (.ok (timeString negative (uintLE days * 24 + hours.toNat) minutes.toNat seconds.toNat
        (uintLE micros))) := by
  refine (Reads.readInt8 12).bind ((Reads.readInt8 _).bind ((Reads.readInt32 daysLength).bind
    ((Reads.readInt8 hours).bind ((Reads.readInt8 minutes).bind
      ((Reads.readInt8 seconds).bind ?_)))))
  dsimp only
  rw [if_pos (by decide), any_flag]
  refine (Reads.readInt32 microsLength).bind_nil ?_
  exact (reads_byteText _).bind_nil ((reads_byteText _).bind_nil (Reads.pure _))

/-! ## Writing -/

theorem writeWhole_finite {bytes value : Nat} (small : value < 256 ^ bytes) :
    writeWhole bytes (.finite value) = .ok (writeUIntLE value bytes) :=
  if_pos small

/-- The bytes of a time are as many as `timeLength` says, and are read as its fields. -/
theorem writeTime_reads (negative : Bool) {days hours minutes seconds micros : Nat}
    (daysSmall : days < 2 ^ 32) (hoursSmall : hours < 256) (minutesSmall : minutes < 256)
    (secondsSmall : seconds < 256) (microsSmall : micros < 2 ^ 32) :
    ∃ bytes,
      writeTime ⟨negative, .finite days, .finite hours, .finite minutes, .finite seconds,
        .finite micros⟩ = .ok bytes ∧
      bytes.length = timeLength ⟨negative, .finite days, .finite hours, .finite minutes,
        .finite seconds, .finite micros⟩ ∧
      Reads readTimeString bytes (.ok (timeString
        (negative && decide ¬(days = 0 ∧ hours = 0 ∧ minutes = 0 ∧ seconds = 0 ∧ micros = 0))
        (days * 24 + hours) minutes seconds micros)) := by
  have nothing : (!(WholeNumber.finite days).truthy && !(WholeNumber.finite hours).truthy &&
      !(WholeNumber.finite minutes).truthy && !(WholeNumber.finite seconds).truthy &&
      !(WholeNumber.finite micros).truthy) = true ↔
      days = 0 ∧ hours = 0 ∧ minutes = 0 ∧ seconds = 0 ∧ micros = 0 := by
    simp [WholeNumber.truthy, and_assoc]
  by_cases zero : days = 0 ∧ hours = 0 ∧ minutes = 0 ∧ seconds = 0 ∧ micros = 0
  · obtain ⟨rfl, rfl, rfl, rfl, rfl⟩ := zero
    refine ⟨[0], rfl, rfl, ?_⟩
    have unsigned : (negative && decide ¬(0 = 0 ∧ 0 = 0 ∧ 0 = 0 ∧ 0 = 0 ∧ 0 = 0)) = false := by
      cases negative <;> decide
    have midnight : timeString false (0 * 24 + 0) 0 0 0 = "00:00:00" := by decide
    rw [unsigned, midnight]
    exact (Reads.readInt8 0).bind_nil (Reads.pure _)
  · have daysWritten : writeWhole 4 (.finite days) = .ok (writeUIntLE days 4) :=
      writeWhole_finite daysSmall
    have hoursWritten : writeWhole 1 (.finite hours) = .ok [toByte hours] :=
      writeWhole_finite hoursSmall
    have minutesWritten : writeWhole 1 (.finite minutes) = .ok [toByte minutes] :=
      writeWhole_finite minutesSmall
    have secondsWritten : writeWhole 1 (.finite seconds) = .ok [toByte seconds] :=
      writeWhole_finite secondsSmall
    have daysLength : (writeUIntLE days 4).length = 4 := length_writeUIntLE days 4
    have daysRead : uintLE (writeUIntLE days 4) = days := uintLE_writeUIntLE_of_lt daysSmall
    rw [writeTime, timeLength, if_neg (mt nothing.mp zero), if_neg (mt nothing.mp zero),
      daysWritten, hoursWritten, minutesWritten, secondsWritten, decide_eq_true zero,
      Bool.and_true]
    by_cases whole : micros = 0
    · have read := reads_time_short negative daysLength (toByte hours) (toByte minutes)
        (toByte seconds)
      rw [daysRead, toByte_toNat, toByte_toNat, toByte_toNat, Nat.mod_eq_of_lt hoursSmall,
        Nat.mod_eq_of_lt minutesSmall, Nat.mod_eq_of_lt secondsSmall] at read
      subst whole
      refine ⟨_, ?_, ?_, read⟩
      · simp [writeMicroseconds, WholeNumber.truthy, ok_bind]
      · simp [daysLength, WholeNumber.truthy]
    · have microsLength : (writeUIntLE micros 4).length = 4 := length_writeUIntLE micros 4
      have microsRead : uintLE (writeUIntLE micros 4) = micros :=
        uintLE_writeUIntLE_of_lt microsSmall
      have microsWritten : writeWhole 4 (.finite micros) = .ok (writeUIntLE micros 4) :=
        writeWhole_finite microsSmall
      have read := reads_time_long negative daysLength microsLength (toByte hours)
        (toByte minutes) (toByte seconds)
      rw [daysRead, microsRead, toByte_toNat, toByte_toNat, toByte_toNat,
        Nat.mod_eq_of_lt hoursSmall, Nat.mod_eq_of_lt minutesSmall,
        Nat.mod_eq_of_lt secondsSmall] at read
      refine ⟨_, ?_, ?_, read⟩
      · simp [writeMicroseconds, WholeNumber.truthy, whole, microsWritten, ok_bind]
      · simp [daysLength, microsLength, WholeNumber.truthy, whole]

/-! ## The round trip -/

theorem rdropWhile_append_replicate (digits : List (Fin 10)) (count : Nat) :
    (digits ++ List.replicate count 0).rdropWhile (fun digit => digit = 0) =
      digits.rdropWhile fun digit => digit = 0 := by
  induction count with
  | zero => rw [List.replicate_zero, List.append_nil]
  | succ count ih =>
      rw [List.replicate_succ', ← List.append_assoc,
        List.rdropWhile_concat_pos _ _ _ (by decide), ih]

theorem rdropWhile_digitChars (digits : List (Fin 10)) :
    (digitChars digits).rdropWhile (fun char => char = '0') =
      digitChars (digits.rdropWhile fun digit => digit = 0) := by
  have isZero : ((fun char : Char => decide (char = '0')) ∘ fun digit : Fin 10 => digit.val.digitChar)
      = fun digit => decide (digit = 0) := by
    funext digit
    revert digit
    decide
  rw [List.rdropWhile, digitChars, ← List.map_reverse, List.dropWhile_map, isZero,
    ← List.map_reverse]
  rfl

end Mysql2.Parsers

namespace Mysql2.Packets.TimeMatch

open Mysql2.Parsers Mysql2.Script

theorem shortFraction_eq (time : TimeMatch) :
    time.shortFraction =
      (padEnd (time.fraction.getD [])).rdropWhile fun digit => digit = 0 :=
  (rdropWhile_append_replicate _ _).symm

theorem micros_eq_zero_iff (time : TimeMatch) : time.micros = 0 ↔ time.shortFraction = [] := by
  rw [micros, numeral_eq_zero_iff, shortFraction_eq, List.rdropWhile_eq_nil_iff]
  simp

/-- The string that is made of the parts is the canonical one. -/
theorem timeString_eq {time : TimeMatch} (isTime : time.isTime = true) :
    timeString (time.negative && decide ¬time.IsZero) (numeral time.hours) (numeral time.minutes)
      (numeral time.seconds) time.micros = time.canonical := by
  have fraction : leftPad 6 (toString time.micros) =
      String.ofList (digitChars (padEnd (time.fraction.getD []))) := by
    have length := length_padEnd isTime
    rw [leftPad_toString, micros, ← length, padded_numeral (by omega)]
  rw [timeString, canonical, fraction, String.toList_ofList, rdropWhile_digitChars,
    ← shortFraction_eq]
  simp only [Bool.and_eq_true, decide_eq_true_eq, micros_eq_zero_iff]

theorem isZero_iff (time : TimeMatch) :
    (numeral time.hours / 24 = 0 ∧ numeral time.hours % 24 = 0 ∧ numeral time.minutes = 0 ∧
      numeral time.seconds = 0 ∧ time.micros = 0) ↔ time.IsZero := by
  rw [IsZero, micros_eq_zero_iff, ← and_assoc]
  exact and_congr_left' (by omega)

end Mysql2.Packets.TimeMatch

namespace Mysql2.Parsers

open Mysql2.Packets Mysql2.Packets.Packet Mysql2.Script

/-- A text that is accepted is that of a time, which is written with as many bytes as `timeLength`
says, and is read in its canonical form. -/
theorem readTimeString_writeTime {text : JsString} {parts : TimeParts}
    (accepted : toTimeParts (.string text) = .ok parts) :
    ∃ time : TimeMatch, time.isTime = true ∧ text = time.text ∧
      (numeral time.hours / 24 < 2 ^ 32 →
        ∃ bytes, writeTime parts = .ok bytes ∧ bytes.length = timeLength parts ∧
          Reads readTimeString bytes (.ok time.canonical)) := by
  rw [toTimeParts] at accepted
  cases found : TIME_PATTERN text with
  | none =>
      rw [found] at accepted
      cases accepted
  | some time =>
      rw [found] at accepted
      obtain rfl := Except.ok.inj accepted
      obtain ⟨isTime, textEq⟩ := eq_text_of_match found
      refine ⟨time, isTime, textEq, fun small => ?_⟩
      obtain ⟨-, minutes, seconds, -⟩ := TimeMatch.isTime_iff.mp isTime
      have minutesBound := numeral_sexagesimal minutes
      have secondsBound := numeral_sexagesimal seconds
      have microsBound : time.micros < 10 ^ 6 := by
        have below := numeral_lt (padEnd (time.fraction.getD []))
        rwa [TimeMatch.length_padEnd isTime] at below
      have hourOfDay : numeral time.hours % 24 < 24 := Nat.mod_lt _ (by decide)
      obtain ⟨bytes, written, length, read⟩ := writeTime_reads time.negative small
        (Nat.lt_trans hourOfDay (by decide)) (Nat.lt_trans minutesBound (by decide))
        (Nat.lt_trans secondsBound (by decide)) (Nat.lt_trans microsBound (by decide))
      simp only [TimeMatch.isZero_iff, Nat.div_add_mod', TimeMatch.timeString_eq isTime] at read
      rw [TimeMatch.parts_eq isTime small]
      exact ⟨bytes, written, length, read⟩

theorem readTimeString_writeTime_fraction :
    ∃ time : TimeMatch, time.isTime = true ∧ units "-026:3:04.500" = time.text ∧
      (numeral time.hours / 24 < 2 ^ 32 →
        ∃ bytes,
          writeTime (TimeMatch.parts ⟨true, [0, 2, 6], [3], [0, 4], some [5, 0, 0]⟩) = .ok bytes ∧
          bytes.length =
            timeLength (TimeMatch.parts ⟨true, [0, 2, 6], [3], [0, 4], some [5, 0, 0]⟩) ∧
          Reads readTimeString bytes (.ok time.canonical)) :=
  readTimeString_writeTime rfl

example : TimeMatch.canonical ⟨true, [0, 2, 6], [3], [0, 4], some [5, 0, 0]⟩ = "-26:03:04.5" := by
  decide

end Mysql2.Parsers
