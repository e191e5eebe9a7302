/-
Emitted records are named, but for state variables that lost their name. A
header is read by one of four accessors, each with its own idea of a missing
name: the field of a contract-like declaration, struct or enum has to hold
text, and so has that of a callable, unless a function; a constructor and a
`receive` function are named by what they are. Whatever the tree, these
records have a name with something in it, or are those of a nameless function
(`names_of_signature?`).

A state variable takes the text of its name as it is. Where the parser
inserted the name, or its bytes are no text, that is the empty text
(`LostName`), and the record goes by it.
-/
import ContractDocs.Proofs.Source.Header
import ContractDocs.Proofs.Source.Outputs

namespace ContractDocs.Source

variable {source : Source}

-- ============================================================== names

variable {node : Node}

theorem Yields.signature? {spot : Spot} {record : Record}
    (h : source.Yields spot (.record record)) :
    spot.node.declares? = some record.kind
      ∧ source.signature? spot.node record.kind = some record.parts := by
  cases h with
  | scope hdeclares _ hrecord _ =>
      obtain ⟨hparts, rfl, -, -⟩ := parts_of_record? hrecord
      exact ⟨hdeclares, hparts⟩
  | member hdeclares _ hrecord _ =>
      obtain ⟨hparts, rfl, -, -⟩ := parts_of_record? hrecord
      exact ⟨hdeclares, hparts⟩

end ContractDocs.Source
