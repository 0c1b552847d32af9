import LayerCode.Number.Format
import LayerCode.Text.Quoted

/-!
# Payloads

The values of a weight are stored as consecutive little-endian numbers, in single or in half
precision. A snapshot names the precision; no name means single.

* `Precision`, `Precision.name`, `Precision.ofName?`;
* `Payload.write`, `Payload.read`: the bytes of values, and the values of bytes.
-/

namespace LayerCode.Snapshot

open Text

/-- How the values of a weight are stored. -/
inductive Precision where
  | single
  | half
deriving DecidableEq, Repr

/-- The name of a precision. -/
def Precision.name : Precision → String
  | .single => "fp32"
  | .half => "fp16"

/-- The precision with a name. -/
def Precision.ofName? (name : String) : Option Precision :=
  if name = "fp32" then some .single
  else if name = "fp16" then some .half
  else none

namespace Payload

/-- Bytes that hold no values. -/
inductive Fault where
  | wrongLength (precision : Precision) (length : Nat)
  | unknownEncoding (name : String)
deriving DecidableEq, Repr

/-- The text of a fault. -/
def Fault.message : Fault → String
  | .wrongLength precision length => precision.name ++ " payload of " ++ length.repr ++ " bytes"
  | .unknownEncoding name => "unknown encoding " ++ quoted name

/-- The four bytes of a single. -/
def singleBytes (v : UInt32) : List UInt8 :=
  [v.toUInt8, (v >>> 8).toUInt8, (v >>> 16).toUInt8, (v >>> 24).toUInt8]

/-- The two bytes of a half. -/
def halfBytes (v : UInt16) : List UInt8 := [v.toUInt8, (v >>> 8).toUInt8]

/-- The bytes of values. -/
def write (precision : Precision) (values : Array UInt32) : List UInt8 :=
  match precision with
  | .single => values.toList.flatMap singleBytes
  | .half => values.toList.flatMap fun v => halfBytes (Half.ofSingle v)

/-- The number of four bytes, the least significant first. -/
def singleOf (a b c d : UInt8) : UInt32 :=
  a.toUInt32 ||| b.toUInt32 <<< 8 ||| c.toUInt32 <<< 16 ||| d.toUInt32 <<< 24

/-- The singles in bytes, as many as there are whole ones. -/
def singles : List UInt8 → List UInt32
  | a :: b :: c :: d :: rest => singleOf a b c d :: singles rest
  | _ => []

/-- The halves in bytes, as many as there are whole ones. -/
def halves : List UInt8 → List UInt16
  | a :: b :: rest => (a.toUInt16 ||| b.toUInt16 <<< 8) :: halves rest
  | _ => []

/-- The values that bytes hold in a precision. -/
def values (precision : Precision) (bytes : List UInt8) : Except Fault (Array UInt32) :=
  match precision with
  | .single =>
    if bytes.length % 4 ≠ 0 then .error (.wrongLength .single bytes.length)
    else .ok (singles bytes).toArray
  | .half =>
    if bytes.length % 2 ≠ 0 then .error (.wrongLength .half bytes.length)
    else .ok ((halves bytes).map Half.toSingle).toArray

/-- The values that bytes hold in the precision with a name; no name means single. -/
def read (encoding : String) (bytes : List UInt8) : Except Fault (Array UInt32) :=
  if encoding = "" then values .single bytes
  else match Precision.ofName? encoding with
    | some precision => values precision bytes
    | none => .error (.unknownEncoding encoding)

end Payload

end LayerCode.Snapshot
