import Mathlib.Tactic.Common

/-!
# Strings of a script

A string is a list of code units, of which any list is one: surrogates need not
come in pairs.
-/

namespace Mysql2.Script

/-- A string, by its code units. -/
abbrev JsString :=
  List UInt16

/-- The code units of a character: one, or a pair of surrogates. -/
def charUnits (char : Char) : JsString :=
  if char.toNat < 0x10000 then [UInt16.ofNat char.toNat]
  else
    [UInt16.ofNat (0xd800 + (char.toNat - 0x10000) / 0x400),
      UInt16.ofNat (0xdc00 + (char.toNat - 0x10000) % 0x400)]

/-- The code units of a text. -/
def units (text : String) : JsString :=
  text.toList.flatMap charUnits

/-- Characters of ASCII, by a check of them all. -/
theorem isAscii_of_all {chars : List Char} (all : (chars.all fun char => char.toNat < 128) = true) :
    ∀ char ∈ chars, char.toNat < 128 := by
  intro char member
  exact of_decide_eq_true (List.all_eq_true.mp all char member)

end Mysql2.Script
