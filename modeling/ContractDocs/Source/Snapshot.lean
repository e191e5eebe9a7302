/-
Source files with their trees as JSON, the form in which a parser hands
them over. A node is a list: its kind, whether it is named, its field, its
two offsets, its row and its children. A file is text, or the hexadecimal
digits of its bytes when they are not UTF-8.
-/
import ContractDocs.Json.Access
import ContractDocs.Source.Node
import ContractDocs.Text.Hex

namespace ContractDocs

mutual

/-- Reads a node. -/
def Node.ofJson? : Json → Option Node
  | .list [.string kind, named, field, start, stop, row, .list children] => do
    let start ← start.nat?
    let stop ← stop.nat?
    let row ← row.nat?
    let named ← named.nat?
    let children ← Node.listOfJson? children
    return { kind, named := named != 0, field := field.string?, start, stop, row, children }
  | _ => none

/-- Reads the nodes of a list. -/
def Node.listOfJson? : List Json → Option (List Node)
  | [] => some []
  | item :: rest => do
    let node ← Node.ofJson? item
    let nodes ← Node.listOfJson? rest
    return node :: nodes

end

namespace Tree

/-- Reads a tree. -/
def ofJson? (json : Json) : Option Tree := do
  let root ← (json.get? "root").bind Node.ofJson?
  return ⟨root, json.getBool "has_error"⟩

end Tree

/-- The bytes that pairs of hexadecimal digits write. -/
def hexBytes? : List Char → Option (List UInt8)
  | [] => some []
  | a :: b :: rest => do
    let n ← Text.hexNumber? [a, b]
    let bytes ← hexBytes? rest
    return n.toUInt8 :: bytes
  | [_] => none

/-- The bytes of a file given as `source` or `source_hex`. -/
def fileBytes? (json : Json) : Option ByteArray :=
  match json.getString? "source", json.getString? "source_hex" with
  | some text, _ => some text.toUTF8
  | none, some digits => (hexBytes? digits.toList).map fun bytes => ⟨bytes.toArray⟩
  | none, none => none

end ContractDocs
