import Mysql2.Packets.Reads
import Mysql2.Script.Doubles

/-!
# Decimal numerals

The loop in `parseFloat` over the digits of a short text, on doubles.  It is exact as long as the
digits make an integer of at most 2^53, and the length of the text does not see to that: texts
of up to 17 bytes have digits for more.
-/

namespace Mysql2.Packets

open Mysql2.Script Packet

/-! ## The loop -/

namespace Packet

def dot : Nat := 0x2e

def exponent : Nat := 0x65

def exponentCapital : Nat := 0x45

/-- The variables of the loop in `parseFloat`. -/
structure DigitState where
  result : Double
  factor : Double
  pastDot : Bool

def ten : Double :=
  .ofInt 10

/-- One round of the loop, without a state behind it if the built-in parser takes over. -/
def DigitState.step (state : DigitState) (charCode : UInt8) : Option DigitState :=
  if charCode.toNat = dot then
    some { state with pastDot := true }
  else if charCode.toNat = exponent ∨ charCode.toNat = exponentCapital then
    none
  else
    some { state with
      result := (state.result.mul ten).add (.ofInt (charCode.toNat - 48))
      factor := if state.pastDot then state.factor.mul ten else state.factor }

/-- The variables before the loop. -/
def DigitState.start (content : Bytes) : DigitState where
  result := .ofInt 0
  factor := .ofInt (textSign content)
  pastDot := false

/-- The number that `parseFloat` makes of a text, by the loop or by the built-in parser. -/
def parsedFloat (builtin : Bytes → Value Double) (content : Bytes) : Value Double :=
  if 17 < content.length then
    builtin content
  else
    match (unsignedText content).foldlM DigitState.step (.start content) with
    | none => builtin content
    | some state => .other (state.result.div state.factor)

end Packet

/-! ## Numerals -/

inductive Sign
  | none
  | plus
  | minus
  deriving DecidableEq, Repr

/-- A decimal numeral without an exponent. -/
structure Numeral where
  sign : Sign
  whole : List (Fin 10)
  /-- The digits behind the dot, if there is one. -/
  fraction : Option (List (Fin 10))
  nonempty : whole ++ fraction.getD [] ≠ []

/-- An integer with another digit behind it. -/
def withDigit (n : Nat) (digit : Fin 10) : Nat :=
  10 * n + digit

/-- The integer that digits make. -/
def ofDigits (digits : List (Fin 10)) : Nat :=
  digits.foldl withDigit 0

def digitByte (digit : Fin 10) : UInt8 :=
  UInt8.ofNat (48 + digit)

def Sign.bytes : Sign → Bytes
  | none => []
  | plus => [0x2b]
  | minus => [0x2d]

namespace Numeral

def unsigned (numeral : Numeral) : Bytes :=
  numeral.whole.map digitByte ++
    match numeral.fraction with
    | none => []
    | some fraction => 0x2e :: fraction.map digitByte

def bytes (numeral : Numeral) : Bytes :=
  numeral.sign.bytes ++ numeral.unsigned

/-- The integer that the digits make without the dot. -/
def digits (numeral : Numeral) : Nat :=
  ofDigits (numeral.whole ++ numeral.fraction.getD [])

/-- How many digits there are behind the dot. -/
def scale (numeral : Numeral) : Nat :=
  (numeral.fraction.getD []).length

/-- The number that the numeral stands for, without its sign. -/
def magnitude (numeral : Numeral) : ℚ :=
  numeral.digits / 10 ^ numeral.scale

end Numeral

def isDigitByte (byte : UInt8) : Bool :=
  48 ≤ byte.toNat && byte.toNat ≤ 57

/-- The integer that digits make. -/
def ofDigitBytes (digits : Bytes) : Nat :=
  digits.foldl (fun n byte => 10 * n + (byte.toNat - 48)) 0

/-- A text behind the sign of a numeral. -/
def behindOneSign : Bytes → Bytes
  | 0x2b :: unsigned | 0x2d :: unsigned => unsigned
  | unsigned => unsigned

/-- The digits behind the dot of a numeral. -/
def fractionDigits (unsigned : Bytes) : Bytes :=
  match unsigned.dropWhile isDigitByte with
  | 0x2e :: fraction => fraction.takeWhile isDigitByte
  | _ => []

/-- `Number.parseFloat(text)`, for a text that is a decimal numeral without an exponent. -/
def numberParseFloat (text : Bytes) : Double :=
  let whole := (behindOneSign text).takeWhile isDigitByte
  let fraction := fractionDigits (behindOneSign text)
  .rounded (text.head? = some 0x2d) (ofDigitBytes (whole ++ fraction) / 10 ^ fraction.length)

/-! ## What the loop does -/

/-- A digit or a dot. -/
def IsNumeralByte (byte : UInt8) : Prop :=
  byte.toNat = dot ∨ 48 ≤ byte.toNat ∧ byte.toNat ≤ 57

/-- The integer of the digits read so far, behind another one. -/
def readDigit (n : Nat) (byte : UInt8) : Nat :=
  if byte.toNat = dot then n else 10 * n + (byte.toNat - 48)

/-- How many of the digits are behind a dot. -/
def digitsPastDot : Bool → Bytes → Nat
  | _, [] => 0
  | pastDot, byte :: bytes =>
      if byte.toNat = dot then digitsPastDot true bytes
      else (if pastDot then 1 else 0) + digitsPastDot pastDot bytes

theorem le_foldl_readDigit (n : Nat) (bytes : Bytes) : n ≤ bytes.foldl readDigit n := by
  induction bytes generalizing n with
  | nil => exact le_rfl
  | cons byte bytes ih =>
      have first : n ≤ readDigit n byte := by
        rw [readDigit]
        split
        · exact le_rfl
        · omega
      exact first.trans (ih _)

theorem digitsPastDot_le (pastDot : Bool) (bytes : Bytes) :
    digitsPastDot pastDot bytes ≤ bytes.length := by
  induction bytes generalizing pastDot with
  | nil => exact le_rfl
  | cons byte bytes ih =>
      rw [digitsPastDot, List.length_cons]
      split
      · exact (ih true).trans (Nat.le_succ _)
      · have rest := ih pastDot
        split
        · omega
        · omega

namespace Packet.DigitState

variable {state : DigitState} {byte : UInt8}

theorem step_dot (isDot : byte.toNat = dot) : state.step byte = some { state with pastDot := true } :=
  if_pos isDot

theorem step_digit (isDigit : 48 ≤ byte.toNat ∧ byte.toNat ≤ 57) :
    state.step byte = some { state with
      result := (state.result.mul ten).add (.ofInt (byte.toNat - 48))
      factor := if state.pastDot then state.factor.mul ten else state.factor } := by
  have notDot : byte.toNat ≠ dot := by
    rw [dot]
    omega
  have notExponent : ¬(byte.toNat = exponent ∨ byte.toNat = exponentCapital) := by
    rw [exponent, exponentCapital]
    omega
  rw [step, if_neg notDot, if_neg notExponent]

theorem run_dot (isDot : byte.toNat = dot) (bytes : Bytes) :
    (byte :: bytes).foldlM step state = bytes.foldlM step { state with pastDot := true } := by
  rw [List.foldlM_cons, step_dot isDot]
  rfl

theorem run_digit (isDigit : 48 ≤ byte.toNat ∧ byte.toNat ≤ 57) (bytes : Bytes) :
    (byte :: bytes).foldlM step state = bytes.foldlM step { state with
      result := (state.result.mul ten).add (.ofInt (byte.toNat - 48))
      factor := if state.pastDot then state.factor.mul ten else state.factor } := by
  rw [List.foldlM_cons, step_digit isDigit]
  rfl

/-- The loop over a numeral comes to its end. -/
theorem exists_run (state : DigitState) {bytes : Bytes}
    (isNumeral : ∀ byte ∈ bytes, IsNumeralByte byte) :
    ∃ after, bytes.foldlM step state = some after := by
  induction bytes generalizing state with
  | nil => exact ⟨state, rfl⟩
  | cons byte bytes ih =>
      obtain ⟨first, others⟩ := List.forall_mem_cons.mp isNumeral
      rcases first with isDot | isDigit
      · rw [run_dot isDot]
        exact ih _ others
      · rw [run_digit isDigit]
        exact ih _ others

theorem isNat_ten : ten.IsNat 10 :=
  Double.isNat_ofInt (show 10 ≤ 2 ^ 53 by decide)

/-- The product is exact if the digits behind it are few enough. -/
theorem isNat_product {n : Nat} (isNat : state.result.IsNat n) (small : 10 * n ≤ 2 ^ 53) :
    (state.result.mul ten).IsNat (10 * n) := by
  rw [Nat.mul_comm] at small ⊢
  exact isNat.mul isNat_ten small

theorem isNat_digit (isDigit : 48 ≤ byte.toNat ∧ byte.toNat ≤ 57) :
    Double.IsNat (.ofInt ((byte.toNat : Int) - 48)) (byte.toNat - 48) := by
  have digit : ((byte.toNat : Int) - 48) = ((byte.toNat - 48 : Nat) : Int) := by omega
  rw [digit]
  exact Double.isNat_ofInt (by omega)

/-- The digits are accumulated exactly as long as they make a small enough integer. -/
theorem isNat_result {n : Nat} (isNat : state.result.IsNat n) {bytes : Bytes}
    (isNumeral : ∀ byte ∈ bytes, IsNumeralByte byte)
    (small : bytes.foldl readDigit n ≤ 2 ^ 53) {after : DigitState}
    (run : bytes.foldlM step state = some after) :
    after.result.IsNat (bytes.foldl readDigit n) := by
  induction bytes generalizing state n with
  | nil =>
      cases run
      exact isNat
  | cons byte bytes ih =>
      obtain ⟨first, others⟩ := List.forall_mem_cons.mp isNumeral
      rw [List.foldl_cons] at small ⊢
      rcases first with isDot | isDigit
      · have same : readDigit n byte = n := if_pos isDot
        rw [run_dot isDot] at run
        rw [same] at small ⊢
        refine ih ?_ others small run
        exact isNat
      · have next : readDigit n byte = 10 * n + (byte.toNat - 48) := by
          apply if_neg
          rw [dot]
          omega
        have bound := le_foldl_readDigit (readDigit n byte) bytes
        rw [run_digit isDigit] at run
        rw [next] at small bound ⊢
        refine ih ?_ others small run
        exact (isNat_product isNat (by omega)).add (isNat_digit isDigit) (by omega)

/-- A power of ten times ten. -/
theorem factor_mul {factor : Double} {k : Nat} (power : factor.magnitude = 10 ^ k)
    (small : k + 1 ≤ 22) :
    (factor.mul ten).negative = factor.negative ∧ (factor.mul ten).magnitude = 10 ^ (k + 1) := by
  constructor
  · show (factor.negative != ten.negative) = factor.negative
    rw [isNat_ten.positive, Bool.bne_false]
  · show nearest |factor.magnitude * ten.magnitude| = 10 ^ (k + 1)
    rw [power, isNat_ten.magnitude, Nat.cast_ofNat, ← pow_succ, abs_of_nonneg (by positivity),
      nearest_of_isMagnitude (isMagnitude_ten_pow small)]

/-- The factor is a power of ten, and exact as long as there are few digits behind a dot. -/
theorem factor_run {k : Nat} (power : state.factor.magnitude = 10 ^ k) {bytes : Bytes}
    (isNumeral : ∀ byte ∈ bytes, IsNumeralByte byte)
    (small : k + digitsPastDot state.pastDot bytes ≤ 22) {after : DigitState}
    (run : bytes.foldlM step state = some after) :
    after.factor.negative = state.factor.negative ∧
      after.factor.magnitude = 10 ^ (k + digitsPastDot state.pastDot bytes) := by
  induction bytes generalizing state k with
  | nil =>
      cases run
      exact ⟨rfl, power⟩
  | cons byte bytes ih =>
      obtain ⟨first, others⟩ := List.forall_mem_cons.mp isNumeral
      rcases first with isDot | isDigit
      · have same : digitsPastDot state.pastDot (byte :: bytes) = digitsPastDot true bytes :=
          if_pos isDot
        rw [run_dot isDot] at run
        rw [same] at small ⊢
        refine ih ?_ others small run
        exact power
      · have notDot : byte.toNat ≠ dot := by
          rw [dot]
          omega
        rw [run_digit isDigit] at run
        rw [digitsPastDot, if_neg notDot] at small ⊢
        obtain ⟨result, factor, pastDot⟩ := state
        cases pastDot with
        | false =>
            have digits : k + ((if false = true then 1 else 0) + digitsPastDot false bytes) =
                k + digitsPastDot false bytes := by simp
            rw [digits] at small ⊢
            exact @ih ⟨(result.mul ten).add (.ofInt (byte.toNat - 48)), factor, false⟩ k power others
              small run
        | true =>
            have digits : k + ((if true = true then 1 else 0) + digitsPastDot true bytes) =
                k + 1 + digitsPastDot true bytes := by simp [Nat.add_assoc]
            rw [digits] at small ⊢
            obtain ⟨sign, nextPower⟩ := factor_mul power (by omega)
            obtain ⟨sameSign, lastPower⟩ :=
              @ih ⟨(result.mul ten).add (.ofInt (byte.toNat - 48)), factor.mul ten, true⟩ (k + 1)
                nextPower others small run
            exact ⟨sameSign.trans sign, lastPower⟩

end Packet.DigitState

/-! ## The bytes of numerals -/

theorem toNat_digitByte (digit : Fin 10) : (digitByte digit).toNat = 48 + digit := by
  rw [digitByte, UInt8.toNat_ofNat']
  omega

theorem isDigit_digitByte (digit : Fin 10) :
    48 ≤ (digitByte digit).toNat ∧ (digitByte digit).toNat ≤ 57 := by
  rw [toNat_digitByte]
  omega

theorem isNumeral_map_digitByte (digits : List (Fin 10)) :
    ∀ byte ∈ digits.map digitByte, IsNumeralByte byte := by
  intro byte member
  obtain ⟨digit, -, rfl⟩ := List.mem_map.mp member
  exact .inr (isDigit_digitByte digit)

theorem readDigit_digitByte (n : Nat) (digit : Fin 10) :
    readDigit n (digitByte digit) = withDigit n digit := by
  have range := isDigit_digitByte digit
  rw [readDigit, if_neg (by rw [dot]; omega), toNat_digitByte, withDigit]
  omega

theorem foldl_readDigit_map (digits : List (Fin 10)) (n : Nat) :
    (digits.map digitByte).foldl readDigit n = digits.foldl withDigit n := by
  induction digits generalizing n with
  | nil => rfl
  | cons digit digits ih =>
      rw [List.map_cons, List.foldl_cons, List.foldl_cons, readDigit_digitByte]
      exact ih _

theorem digitsPastDot_map (pastDot : Bool) (digits : List (Fin 10)) (rest : Bytes) :
    digitsPastDot pastDot (digits.map digitByte ++ rest) =
      (if pastDot then digits.length else 0) + digitsPastDot pastDot rest := by
  induction digits with
  | nil => simp
  | cons digit digits ih =>
      have range := isDigit_digitByte digit
      rw [List.map_cons, List.cons_append, digitsPastDot, if_neg (by rw [dot]; omega), ih,
        List.length_cons]
      cases pastDot with
      | false => exact Nat.zero_add _
      | true =>
          simp only [if_pos]
          omega

namespace Numeral

variable (numeral : Numeral)

theorem isNumeral_unsigned : ∀ byte ∈ numeral.unsigned, IsNumeralByte byte := by
  obtain ⟨sign, whole, fraction, nonempty⟩ := numeral
  intro byte member
  rcases List.mem_append.mp member with inWhole | behind
  · exact isNumeral_map_digitByte whole byte inWhole
  · cases fraction with
    | none => cases behind
    | some fraction =>
        rcases List.mem_cons.mp behind with rfl | inFraction
        · exact .inl rfl
        · exact isNumeral_map_digitByte fraction byte inFraction

theorem foldl_readDigit_unsigned : numeral.unsigned.foldl readDigit 0 = numeral.digits := by
  obtain ⟨sign, whole, fraction, nonempty⟩ := numeral
  cases fraction with
  | none =>
      rw [unsigned, digits, ofDigits, List.append_nil]
      exact (foldl_readDigit_map whole 0).trans
        (congrArg _ (List.append_nil whole).symm)
  | some fraction =>
      rw [unsigned, digits, ofDigits, List.foldl_append, List.foldl_cons, foldl_readDigit_map,
        Option.getD_some, List.foldl_append]
      exact congrArg (fraction.foldl withDigit) (foldl_readDigit_map whole 0)

theorem digitsPastDot_unsigned : digitsPastDot false numeral.unsigned = numeral.scale := by
  obtain ⟨sign, whole, fraction, nonempty⟩ := numeral
  rw [unsigned, digitsPastDot_map]
  cases fraction with
  | none => rfl
  | some fraction =>
      have behind := digitsPastDot_map true fraction []
      rw [List.append_nil] at behind
      show 0 + digitsPastDot true (fraction.map digitByte) = fraction.length
      rw [behind]
      simp [digitsPastDot]

theorem exists_unsigned_cons : ∃ first rest, numeral.unsigned = first :: rest ∧ 46 ≤ first.toNat := by
  have isNumeral := numeral.isNumeral_unsigned
  have nonempty : numeral.unsigned ≠ [] := by
    obtain ⟨sign, whole, fraction, nonempty⟩ := numeral
    rw [unsigned]
    cases whole with
    | cons digit digits => exact List.cons_ne_nil _ _
    | nil =>
        cases fraction with
        | none => exact absurd rfl nonempty
        | some fraction => exact List.cons_ne_nil _ _
  obtain ⟨first, rest, unsignedEq⟩ := List.exists_cons_of_ne_nil nonempty
  refine ⟨first, rest, unsignedEq, ?_⟩
  rcases isNumeral first (by simp [unsignedEq]) with isDot | isDigit
  · rw [isDot]
    decide
  · omega

/-- No sign is skipped behind the sign of the numeral. -/
theorem behindSign_unsigned {sign : Nat} (isSign : sign < 46) :
    behindSign sign numeral.unsigned = numeral.unsigned := by
  obtain ⟨first, rest, unsignedEq, range⟩ := numeral.exists_unsigned_cons
  rw [unsignedEq, behindSign, if_neg (by omega)]

theorem unsignedText_bytes : unsignedText numeral.bytes = numeral.unsigned := by
  have isMinus : minus < 46 := by decide
  have isPlus : plus < 46 := by decide
  rw [unsignedText, bytes]
  cases numeral.sign with
  | none =>
      show behindSign plus (behindSign minus numeral.unsigned) = numeral.unsigned
      rw [numeral.behindSign_unsigned isMinus, numeral.behindSign_unsigned isPlus]
  | plus =>
      show behindSign plus (behindSign minus (0x2b :: numeral.unsigned)) = numeral.unsigned
      rfl
  | minus =>
      show behindSign plus (behindSign minus (0x2d :: numeral.unsigned)) = numeral.unsigned
      exact numeral.behindSign_unsigned isPlus

theorem textSign_bytes : textSign numeral.bytes = if numeral.sign = .minus then -1 else 1 := by
  obtain ⟨first, rest, unsignedEq, range⟩ := numeral.exists_unsigned_cons
  rw [textSign, bytes]
  cases numeral.sign with
  | none =>
      have notMinus : startsWith minus (Sign.none.bytes ++ numeral.unsigned) = false := by
        rw [unsignedEq, startsWith, decide_eq_false_iff_not]
        intro same
        have isMinus : first.toNat = 45 := Option.some.inj same
        omega
      rw [notMinus]
      rfl
  | plus => rfl
  | minus => rfl

theorem bytes_ne_minus : numeral.bytes ≠ [0x2d] := by
  obtain ⟨first, rest, unsignedEq, range⟩ := numeral.exists_unsigned_cons
  rw [bytes, unsignedEq]
  cases numeral.sign with
  | none =>
      intro same
      have isMinus := congrArg UInt8.toNat (List.cons.inj same).1
      have code : (0x2d : UInt8).toNat = 45 := rfl
      omega
  | plus => exact fun same => absurd (List.cons.inj same).1 (by decide)
  | minus => exact fun same => absurd (List.cons.inj same).2 (List.cons_ne_nil _ _)

end Numeral

/-! ## What the language makes of numerals -/

theorem isDigitByte_digitByte (digit : Fin 10) : isDigitByte (digitByte digit) = true := by
  have range := isDigit_digitByte digit
  rw [isDigitByte]
  simpa using range

theorem ofDigitBytes_map (digits : List (Fin 10)) :
    ofDigitBytes (digits.map digitByte) = ofDigits digits := by
  have step (n : Nat) (digit : Fin 10) :
      10 * n + ((digitByte digit).toNat - 48) = withDigit n digit := by
    rw [toNat_digitByte, withDigit]
    omega
  rw [ofDigitBytes, ofDigits, List.foldl_map]
  simp only [step]

theorem isDigitByte_of_mem_map {digits : List (Fin 10)} :
    ∀ byte ∈ digits.map digitByte, isDigitByte byte = true := by
  intro byte member
  obtain ⟨digit, -, rfl⟩ := List.mem_map.mp member
  exact isDigitByte_digitByte digit

namespace Numeral

variable (numeral : Numeral)

theorem takeWhile_unsigned : numeral.unsigned.takeWhile isDigitByte = numeral.whole.map digitByte := by
  obtain ⟨sign, whole, fraction, nonempty⟩ := numeral
  rw [unsigned, List.takeWhile_append_of_pos isDigitByte_of_mem_map]
  cases fraction with
  | none => exact List.append_nil _
  | some fraction => exact List.append_nil _

theorem fractionDigits_unsigned :
    fractionDigits numeral.unsigned = (numeral.fraction.getD []).map digitByte := by
  obtain ⟨sign, whole, fraction, nonempty⟩ := numeral
  rw [fractionDigits, unsigned, List.dropWhile_append_of_pos isDigitByte_of_mem_map]
  cases fraction with
  | none => rfl
  | some fraction => exact List.takeWhile_eq_self_iff.mpr isDigitByte_of_mem_map

theorem behindOneSign_bytes : behindOneSign numeral.bytes = numeral.unsigned := by
  obtain ⟨first, rest, unsignedEq, range⟩ := numeral.exists_unsigned_cons
  rw [bytes]
  cases numeral.sign with
  | none =>
      have notPlus : first ≠ 0x2b := by
        rintro rfl
        exact absurd range (by decide)
      have notMinus : first ≠ 0x2d := by
        rintro rfl
        exact absurd range (by decide)
      show behindOneSign numeral.unsigned = numeral.unsigned
      rw [unsignedEq]
      unfold behindOneSign
      split
      case h_1 same => exact absurd (List.cons.inj same).1 notPlus
      case h_2 same => exact absurd (List.cons.inj same).1 notMinus
      case h_3 => rfl
  | plus => rfl
  | minus => rfl

theorem head_bytes : numeral.bytes.head? = some 0x2d ↔ numeral.sign = .minus := by
  obtain ⟨first, rest, unsignedEq, range⟩ := numeral.exists_unsigned_cons
  rw [bytes, unsignedEq]
  cases numeral.sign with
  | none =>
      constructor
      · intro isMinus
        rw [Option.some.inj isMinus] at range
        exact absurd range (by decide)
      · exact fun same => nomatch same
  | plus => exact iff_of_false (fun same => absurd (Option.some.inj same) (by decide)) (by decide)
  | minus => exact iff_of_true rfl rfl

/-- The language rounds the number that the numeral stands for. -/
theorem numberParseFloat_bytes :
    numberParseFloat numeral.bytes = .rounded (numeral.sign = .minus) numeral.magnitude := by
  have digitsEq : ofDigitBytes (numeral.whole.map digitByte ++
      (numeral.fraction.getD []).map digitByte) = numeral.digits := by
    rw [← List.map_append, ofDigitBytes_map]
    rfl
  rw [numberParseFloat, numeral.behindOneSign_bytes, numeral.takeWhile_unsigned,
    numeral.fractionDigits_unsigned, digitsEq, List.length_map, magnitude, scale]
  simp only [numeral.head_bytes]

end Numeral

/-! ## Short texts -/

/-- What a numeral ought to be read as: its digits accumulate exactly, within 2^53; the factor is
the power of ten of the digits behind the dot, at most 10^22; and the double is the one next to
the number that the numeral stands for, as the language reads it. -/
structure Numeral.ReadExactly (numeral : Numeral) (double : Double) : Prop where
  accumulated : ∀ before after, numeral.unsigned = before ++ after →
    ∃ state, before.foldlM DigitState.step (.start numeral.bytes) = some state ∧
      state.result.IsNat (before.foldl readDigit 0) ∧ before.foldl readDigit 0 ≤ 2 ^ 53 ∧
      ∀ byte later, after = byte :: later → byte.toNat ≠ dot →
        (state.result.mul ten).IsNat (10 * before.foldl readDigit 0) ∧
          10 * before.foldl readDigit 0 ≤ 2 ^ 53
  divided : ∃ state, numeral.unsigned.foldlM DigitState.step (.start numeral.bytes) = some state ∧
    state.factor.magnitude = 10 ^ numeral.scale ∧ numeral.scale ≤ 22 ∧
    double = state.result.div state.factor
  nearest : IsNearest numeral.magnitude double.magnitude
  negative : double.negative = true ↔ numeral.sign = .minus
  builtin : double = numberParseFloat numeral.bytes

namespace Numeral

variable {numeral : Numeral}

theorem isNat_start (content : Bytes) : (DigitState.start content).result.IsNat 0 :=
  Double.isNat_ofInt (show 0 ≤ 2 ^ 53 by decide)

theorem factor_start (numeral : Numeral) :
    (DigitState.start numeral.bytes).factor.negative = (numeral.sign = .minus : Bool) ∧
      (DigitState.start numeral.bytes).factor.magnitude = 10 ^ 0 := by
  have one : (Double.ofInt 1).IsNat 1 := Double.isNat_ofInt (show 1 ≤ 2 ^ 53 by decide)
  have minusOne : (Double.ofInt (-1)).negative = true ∧ (Double.ofInt (-1)).magnitude = 1 := by
    decide +kernel
  rw [DigitState.start, numeral.textSign_bytes, pow_zero]
  dsimp only
  by_cases isMinus : numeral.sign = .minus
  · rw [if_pos isMinus, decide_eq_true isMinus]
    exact minusOne
  · rw [if_neg isMinus, decide_eq_false isMinus]
    exact ⟨one.positive, one.magnitude.trans Nat.cast_one⟩

/-- Each part of the numeral is accumulated exactly, and so is each product. -/
theorem accumulated_of_small (small : numeral.digits ≤ 2 ^ 53) (before after : Bytes)
    (split : numeral.unsigned = before ++ after) :
    ∃ state, before.foldlM DigitState.step (.start numeral.bytes) = some state ∧
      state.result.IsNat (before.foldl readDigit 0) ∧ before.foldl readDigit 0 ≤ 2 ^ 53 ∧
      ∀ byte later, after = byte :: later → byte.toNat ≠ dot →
        (state.result.mul ten).IsNat (10 * before.foldl readDigit 0) ∧
          10 * before.foldl readDigit 0 ≤ 2 ^ 53 := by
  have isNumeral := numeral.isNumeral_unsigned
  have digits := numeral.foldl_readDigit_unsigned
  rw [split] at isNumeral digits
  rw [List.foldl_append] at digits
  obtain ⟨isBefore, isAfter⟩ := List.forall_mem_append.mp isNumeral
  have bound := le_foldl_readDigit (before.foldl readDigit 0) after
  obtain ⟨state, run⟩ := DigitState.exists_run (.start numeral.bytes) isBefore
  have result := DigitState.isNat_result (isNat_start _) isBefore (by omega) run
  refine ⟨state, run, result, by omega, ?_⟩
  rintro byte later rfl notDot
  have next : readDigit (before.foldl readDigit 0) byte =
      10 * before.foldl readDigit 0 + (byte.toNat - 48) := if_neg notDot
  have nextBound := le_foldl_readDigit (readDigit (before.foldl readDigit 0) byte) later
  rw [List.foldl_cons] at digits
  exact ⟨DigitState.isNat_product result (by omega), by omega⟩

theorem readExactly_of_small (short : numeral.bytes.length ≤ 17)
    (small : numeral.digits ≤ 2 ^ 53) {state : DigitState}
    (run : numeral.unsigned.foldlM DigitState.step (.start numeral.bytes) = some state) :
    numeral.ReadExactly (state.result.div state.factor) := by
  have isNumeral := numeral.isNumeral_unsigned
  have digits := numeral.foldl_readDigit_unsigned
  have scale := numeral.digitsPastDot_unsigned
  have scaleLe := digitsPastDot_le false numeral.unsigned
  have lengthLe : numeral.unsigned.length ≤ numeral.bytes.length := by
    rw [bytes, List.length_append]
    omega
  obtain ⟨startSign, startPower⟩ := factor_start numeral
  have result := DigitState.isNat_result (isNat_start _) isNumeral (by omega) run
  obtain ⟨sign, power⟩ := DigitState.factor_run startPower isNumeral (by
    show 0 + digitsPastDot false numeral.unsigned ≤ 22
    omega) run
  have powerEq : state.factor.magnitude = 10 ^ numeral.scale := by
    rw [power, ← scale]
    exact congrArg _ (Nat.zero_add _)
  have double : state.result.div state.factor =
      .rounded (numeral.sign = .minus) numeral.magnitude := by
    rw [Double.div, result.positive, result.magnitude, powerEq, sign, startSign, digits,
      Bool.false_bne]
    rfl
  have nonneg : 0 ≤ numeral.magnitude := by
    rw [magnitude]
    positivity
  constructor
  case accumulated => exact accumulated_of_small small
  case divided => exact ⟨state, run, powerEq, by omega, rfl⟩
  case nearest =>
    rw [double]
    show IsNearest _ (nearest |numeral.magnitude|)
    rw [abs_of_nonneg nonneg]
    exact isNearest_nearest nonneg
  case negative =>
    rw [double]
    show decide (numeral.sign = .minus) = true ↔ _
    exact decide_eq_true_iff
  case builtin => rw [double, numeral.numberParseFloat_bytes]

end Numeral

/-- A numeral of at most 17 bytes is read as some double.  It is read exactly if and only if its
digits make an integer of at most 2^53. -/
theorem parseFloat_readExactly_iff (runtime : Runtime Double) (builtin : Bytes → Value Double)
    {numeral : Numeral} (short : numeral.bytes.length ≤ 17) {packet : Packet} {rest : Bytes}
    (aheadEq : packet.ahead = numeral.bytes ++ rest) :
    ∃ double, (Packet.parseFloat { runtime with decimal := parsedFloat builtin }
        (.number numeral.bytes.length)).run packet =
          .ok (.other double, packet.advance numeral.bytes.length) ∧
      (numeral.ReadExactly double ↔ numeral.digits ≤ 2 ^ 53) := by
  obtain ⟨state, run⟩ := DigitState.exists_run (.start numeral.bytes) numeral.isNumeral_unsigned
  obtain ⟨first, others, unsignedEq, -⟩ := numeral.exists_unsigned_cons
  have nonempty : numeral.bytes ≠ [] := by
    rw [Numeral.bytes, unsignedEq]
    exact List.append_ne_nil_of_right_ne_nil _ (List.cons_ne_nil _ _)
  have parsed : parsedFloat builtin numeral.bytes = .other (state.result.div state.factor) := by
    rw [parsedFloat, if_neg (by omega), numeral.unsignedText_bytes, run]
  refine ⟨state.result.div state.factor, ?_, ?_⟩
  · rw [parseFloat_run _ numeral.bytes_ne_minus aheadEq, if_neg nonempty]
    exact congrArg (fun value => Except.ok (value, packet.advance numeral.bytes.length)) parsed
  · constructor
    · intro exact_
      obtain ⟨_, _, _, small, _⟩ := exact_.accumulated numeral.unsigned [] (List.append_nil _).symm
      rw [← numeral.foldl_readDigit_unsigned]
      exact small
    · intro small
      exact Numeral.readExactly_of_small short small run

/-- A runtime for decimal texts, which reads no other values. -/
def decimalRuntime : Runtime Double where
  decode _ bytes := .ok (latin1 bytes)
  errorCodeToName _ := none
  charsetToEncoding _ := none
  decode_binary := utcRuntime.decode_binary
  toNumber _ := .nan
  decimal := parsedFloat fun text => .other (numberParseFloat text)
  readFloatLE _ := .ofInt 0
  readDoubleLE _ := .ofInt 0
  geometry _ := .ok .null
  jsonParse _ _ := .ok .null
  jsonParse_null _ := rfl
  jsonSourceAccessSupported := true
  localTime _ := none
  utcTime _ := none
  dateParse _ := none
  isObject _ := false
  truthy double := double.magnitude ≠ 0

/-- `-12.5` -/
def negativeHalf : Numeral where
  sign := .minus
  whole := [1, 2]
  fraction := some [5]
  nonempty := by decide

theorem parseFloat_readExactly_iff_negativeHalf :
    ∃ double, (Packet.parseFloat
        { decimalRuntime with decimal := parsedFloat fun text => .other (numberParseFloat text) }
        (.number negativeHalf.bytes.length)).run (packetOf negativeHalf.bytes) =
          .ok (.other double, (packetOf negativeHalf.bytes).advance negativeHalf.bytes.length) ∧
      (negativeHalf.ReadExactly double ↔ negativeHalf.digits ≤ 2 ^ 53) :=
  parseFloat_readExactly_iff decimalRuntime _ (by decide)
    (show (packetOf negativeHalf.bytes).ahead = negativeHalf.bytes ++ [] from ahead_packetOf _)

/-- `90071992547409.93` -/
def beyondSignificand : Numeral where
  sign := .none
  whole := [9, 0, 0, 7, 1, 9, 9, 2, 5, 4, 7, 4, 0, 9]
  fraction := some [9, 3]
  nonempty := by decide

/-- Two roundings end one unit in the last place below the number that the language reads. -/
theorem parsedFloat_beyondSignificand :
    (match decimalRuntime.decimal beyondSignificand.bytes with
      | .other double => some double.magnitude
      | _ => none) = some (5764607523034235 / 64) ∧
    (numberParseFloat beyondSignificand.bytes).magnitude = 5764607523034236 / 64 := by
  decide +kernel

theorem not_forall_readExactly :
    ¬ ∀ numeral : Numeral, numeral.bytes.length ≤ 17 →
      ∃ double after, (Packet.parseFloat decimalRuntime (.number numeral.bytes.length)).run
          (packetOf numeral.bytes) = .ok (.other double, after) ∧ numeral.ReadExactly double := by
  intro readExactly
  obtain ⟨double, after, run, exactly⟩ := readExactly beyondSignificand (by decide)
  obtain ⟨loop, builtin⟩ := parsedFloat_beyondSignificand
  have aheadEq : (packetOf beyondSignificand.bytes).ahead = beyondSignificand.bytes ++ [] :=
    ahead_packetOf _
  rw [parseFloat_run decimalRuntime beyondSignificand.bytes_ne_minus aheadEq,
    if_neg (by decide)] at run
  have read : decimalRuntime.decimal beyondSignificand.bytes = .other double :=
    congrArg Prod.fst (Except.ok.inj run)
  rw [read] at loop
  have loopEq : double.magnitude = 5764607523034235 / 64 := Option.some.inj loop
  rw [exactly.builtin, builtin] at loopEq
  exact absurd loopEq (by norm_num)

end Mysql2.Packets
