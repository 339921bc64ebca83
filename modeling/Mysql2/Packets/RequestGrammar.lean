import Mysql2.Packets.Cursor
import Mysql2.Packets.Requests
import Mysql2.Stream.Grammar

/-!
# The grammar of requests with parameters

What a server takes `COM_QUERY` and `COM_STMT_EXECUTE` for, given whether query
attributes are negotiated.
-/

namespace Mysql2.Packets

open Mysql2.Stream

/-! ## Grammars -/

namespace RequestGrammar

/-- An unsigned integer. -/
def number (bytes : Nat) : Grammar UInt8 Nat := do
  return uintLE (← Grammar.take bytes)

/-- A length-coded number. -/
def lengthCodedNumber : Grammar UInt8 Nat := do
  let first ← Grammar.symbol
  if first < 0xfb then return first.toNat
  else if first = 0xfc then number 2
  else if first = 0xfd then number 3
  else if first = 0xfe then number 8
  else failure

/-- A length-coded text. -/
def lengthCoded : Grammar UInt8 Bytes := do
  Grammar.take (← lengthCodedNumber)

/-- A value behind a byte with its length. -/
def shortValue : Grammar UInt8 Bytes := do
  Grammar.take (← Grammar.symbol).toNat

/-- The layout of the values of a type. -/
def layout : Types → Grammar UInt8 Bytes
  | .TINY => Grammar.take 1
  | .SHORT | .YEAR => Grammar.take 2
  | .LONG | .INT24 | .FLOAT => Grammar.take 4
  | .LONGLONG | .DOUBLE => Grammar.take 8
  | .DATE | .DATETIME | .TIMESTAMP | .TIME => shortValue
  | .NULL => return []
  | _ => lengthCoded

/-- The encoding of a value of a type, by the code of the type. -/
def value (code : Nat) : Grammar UInt8 Bytes :=
  (layout (Types.ofNat code)).consumed

/-- What a packet says about a parameter before its value. -/
structure Entry where
  code : Nat
  unsigned : Bool
  name : Option Bytes
  deriving DecidableEq, Repr

/-- A name, if there are any. -/
def name : Bool → Grammar UInt8 (Option Bytes)
  | true => do return some (← lengthCoded)
  | false => return none

/-- A type, its flags and a name. -/
def entry (names : Bool) : Grammar UInt8 Entry := do
  let code ← Grammar.symbol
  let flags ← Grammar.symbol
  return ⟨code.toNat, hasFlag flags.toNat 0x80, ← name names⟩

/-- A parameter of a request. -/
structure Binding extends Entry where
  /-- The encoding of a value that is not null. -/
  value : Option Bytes
  deriving DecidableEq, Repr

/-- Bit `index % 8` of byte `index / 8`. -/
def bit (bitmap : Bytes) (index : Nat) : Bool :=
  (bitmap[index / 8]?.getD 0).toNat.testBit (index % 8)

/-- A parameter, given its entry and whether it is null. -/
def binding : Entry × Bool → Grammar UInt8 Binding
  | (entry, true) => return ⟨entry, none⟩
  | (entry, false) => do return ⟨entry, some (← value entry.code)⟩

/-- The parameters of a request: the null bitmap, the flag that types follow,
types and names, and values. -/
def parameters (names : Bool) (count : Nat) : Grammar UInt8 (List Binding) := do
  let bitmap ← Grammar.take ((count + 7) / 8)
  let bound ← Grammar.symbol
  if bound = 1 then
    let entries ← (entry names).times count
    Grammar.each binding (entries.zip ((List.range count).map (bit bitmap)))
  else
    failure

/-- The parameters of a request that may have none. -/
def optionalParameters (names : Bool) (count : Nat) : Grammar UInt8 (List Binding) :=
  if 0 < count then parameters names count else return []

/-- The rest of a packet. -/
def rest : Grammar UInt8 Bytes := fun stream =>
  some (stream, [])

/-- A command byte. -/
def command (code : UInt8) : Grammar UInt8 Unit := do
  if (← Grammar.symbol) = code then return else failure

/-- `COM_QUERY`: the parameters and the text of the statement. -/
def query (queryAttributes : Bool) : Grammar UInt8 (List Binding × Bytes) := do
  command 3
  if queryAttributes then
    let parameterCount ← lengthCodedNumber
    let parameterSetCount ← lengthCodedNumber
    if parameterSetCount = 1 then
      let bindings ← optionalParameters true parameterCount
      return (bindings, ← rest)
    else
      failure
  else
    return ([], ← rest)

/-- What `COM_STMT_EXECUTE` says. -/
structure Execution where
  statementId : Nat
  flags : UInt8
  iterationCount : Nat
  bindings : List Binding
  deriving DecidableEq, Repr

/-- The number of parameters of an execution: that of the statement, unless the
packet counts them itself. -/
def parameterCount (queryAttributes : Bool) (flags : UInt8) (numParams : Nat) : Grammar UInt8 Nat :=
  if queryAttributes ∧ hasFlag flags.toNat 8 then lengthCodedNumber else return numParams

/-- `COM_STMT_EXECUTE` of a statement with a number of parameters. -/
def execute (queryAttributes : Bool) (numParams : Nat) : Grammar UInt8 Execution := do
  command 0x17
  let statementId ← number 4
  let flags ← Grammar.symbol
  let iterationCount ← number 4
  let count ← parameterCount queryAttributes flags numParams
  let bindings ← optionalParameters queryAttributes count
  return ⟨statementId, flags, iterationCount, bindings⟩

end RequestGrammar

end Mysql2.Packets
