import CathedralCompute.Platform

/-!
# Reading assurance receipts

A receipt is a JSON object without floats whose integers fit a database column.
Reading one also bounds its size, its nesting and its number of values, and
refuses strings that UTF-8 cannot encode.
-/

set_option autoImplicit false

namespace Cathedral

open Codec

def maxReceiptBytes : ℕ := 256 * 1024

def maxReceiptDepth : ℕ := 32

def maxReceiptNodes : ℕ := 4096

/-- `_json_integer`. -/
def receiptInteger (literal : Text) : Option ℤ :=
  (pythonInt literal).filter fun z => -maxSqliteInteger ≤ z ∧ z ≤ maxSqliteInteger

/-- The hooks of `parse_receipt_json`: floats and words for numbers are
refused. -/
def receiptHooks : Hooks := ⟨receiptInteger, fun _ => none, fun _ => none, strictPairs⟩

/-- The shape of a document: how many values it holds, how deep they are nested,
and whether every string is encodable. -/
structure Shape where
  nodes : ℕ
  depth : ℕ
  encodable : Bool

/-- The shape of two parts side by side. -/
def Shape.beside (a b : Shape) : Shape :=
  ⟨a.nodes + b.nodes, max a.depth b.depth, a.encodable && b.encodable⟩

/-- The shape of a container of the given parts. -/
def Shape.around (parts : Shape) : Shape := ⟨parts.nodes + 1, parts.depth + 1, parts.encodable⟩

mutual

/-- The walk of `_validate_json_shape`. -/
def shape : Json → Shape
  | .arr (item :: items) => (shapeItems (item :: items)).around
  | .obj (member :: members) => (shapeMembers (member :: members)).around
  | .str t => ⟨1, 0, t.NoSurrogate⟩
  | _ => ⟨1, 0, true⟩

def shapeItems : List Json → Shape
  | [] => ⟨0, 0, true⟩
  | item :: items => (shape item).beside (shapeItems items)

def shapeMembers : List (Text × Json) → Shape
  | [] => ⟨0, 0, true⟩
  | (key, value) :: members =>
    (Shape.beside ⟨0, 0, key.NoSurrogate⟩ (shape value)).beside (shapeMembers members)

end

/-- `parse_receipt_json`: the receipt as an object, or `none` where it raises
`ReceiptError`. -/
def parseReceiptJson (data : Bytes) : Option Json :=
  if maxReceiptBytes < data.length then none
  else
    match (utf8Decode false data).bind (loads receiptHooks) with
    | some (.obj members) =>
      let walked := shape (.obj members)
      if walked.nodes ≤ maxReceiptNodes ∧ walked.depth ≤ maxReceiptDepth ∧ walked.encodable then
        some (.obj members)
      else none
    | _ => none

end Cathedral
