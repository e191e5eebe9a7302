/-
Targets are read back from the way they are written. A target is a path,
`Contract.name(types)` or a bare name, behind an optional file and a colon.
The path has no colon of its own, so the last colon of the whole ends the
file (`read_eq`), and names without a point or a parenthesis leave the first
point and the first parenthesis to the path (`readPath_path`).

The types are read apart from the rest; when they come back is the subject
of `ReadsBack`.
-/
import ContractDocs.Proofs.Docs.TypeList

namespace ContractDocs

open Text Grouping

/-- A name that holds no sign of a target. -/
structure IsPlain (name : String) : Prop where
  ne_nil : name.toList ≠ []
  plain : ∀ c ∈ name.toList, isBlank c = false ∧ c ≠ '.' ∧ c ≠ '(' ∧ c ≠ ':'

instance (name : String) : Decidable (IsPlain name) :=
  have := List.decidableBAll
    (fun c => isBlank c = false ∧ c ≠ '.' ∧ c ≠ '(' ∧ c ≠ ':') name.toList
  decidable_of_iff (name.toList ≠ [] ∧ ∀ c ∈ name.toList, _)
    ⟨fun h => ⟨h.1, h.2⟩, fun h => ⟨h.ne_nil, h.plain⟩⟩

namespace Target

theorem part?_of_trim {x : List Char} (hne : x ≠ []) (htrim : trim x = x) :
    part? x = some (String.ofList x) := by
  simp [part?, htrim, hne]

theorem part?_of_isPlain {name : String} (h : IsPlain name) :
    part? name.toList = some name := by
  rw [part?_of_trim h.ne_nil (trim_of_no_blank fun c hc => (h.plain c hc).1),
    String.ofList_toList]

-- ============================================================ the path

/-- What stands behind the file of a target. -/
def path (target : Target) : List Char :=
  (match target.contract with
    | some contract => contract.toList ++ ['.']
    | none => [])
  ++ (target.name.getD "").toList
  ++ (match target.paramTypes with
    | some types => '(' :: (writtenTypes types ++ [')'])
    | none => [])

theorem toList_render (target : Target) :
    target.render.toList = match target.file with
      | some file => file.toList ++ ':' :: target.path
      | none => target.path := by
  obtain ⟨file, contract, name, paramTypes⟩ := target
  cases file <;> cases contract <;> cases paramTypes <;>
    simp [render, path, writtenTypes, String.toList_intercalate]

/-- Reads what stands behind the file. -/
def readPath (kind : Kind) (file : Option String) (path : List Char) : Target :=
  let (contract, name, paramTypes) := match cutFirst '.' path with
    | some (contract, member) => (part? contract, readMember member)
    | none => (part? path, none, none)
  if kind.isContractLike && name.isNone then ⟨file, none, contract, paramTypes⟩
  else ⟨file, contract, name, paramTypes⟩

theorem read_eq (kind : Kind) (text : String) :
    read kind text = match cutLast ':' text.toList with
      | some (file, path) => readPath kind (part? file) path
      | none => readPath kind none text.toList := by
  unfold read readPath
  cases cutLast ':' text.toList with
  | none => rfl
  | some found => rfl

/-- A bare name is the name of a contract-like declaration. -/
theorem readPath_name {kind : Kind} (hkind : kind.isContractLike = true)
    {name : String} (hname : IsPlain name) (file : Option String) :
    readPath kind file name.toList = ⟨file, none, some name, none⟩ := by
  have hcut : cutFirst '.' name.toList = none :=
    cutFirst_eq_none_iff.2 fun hc => (hname.plain '.' hc).2.1 rfl
  simp [readPath, hcut, hkind, part?_of_isPlain hname]

/-- Of any other kind, the first point ends the contract. -/
theorem readPath_eq {kind : Kind} (hkind : kind.isContractLike = false)
    (file : Option String) (path : List Char) :
    readPath kind file path = match cutFirst '.' path with
      | some (contract, member) =>
        ⟨file, part? contract, (readMember member).1, (readMember member).2⟩
      | none => ⟨file, part? path, none, none⟩ := by
  unfold readPath
  rw [hkind]
  cases cutFirst '.' path with
  | none => rfl
  | some found => rfl

theorem readPath_member {kind : Kind} (hkind : kind.isContractLike = false)
    {contract : String} (hcontract : IsPlain contract) (file : Option String)
    (member : List Char) :
    readPath kind file (contract.toList ++ '.' :: member)
      = ⟨file, some contract, (readMember member).1, (readMember member).2⟩ := by
  have hcut : cutFirst '.' (contract.toList ++ '.' :: member)
      = some (contract.toList, member) :=
    cutFirst_append (fun hc => (hcontract.plain '.' hc).2.1 rfl) member
  simp only [readPath_eq hkind, hcut, part?_of_isPlain hcontract]

theorem readMember_name (name : String) (hname : name ≠ "" → IsPlain name) :
    readMember name.toList = (part? name.toList, none)
      ∧ ∀ types, readMember (name.toList ++ '(' :: types)
        = (part? name.toList, some (readTypes types)) := by
  have hparen : '(' ∉ name.toList := by
    intro hc
    have hne : name ≠ "" := by
      rintro rfl
      cases hc
    exact ((hname hne).plain '(' hc).2.2.1 rfl
  constructor
  · simp [readMember, cutFirst_eq_none_iff.2 hparen]
  · intro types
    simp [readMember, cutFirst_append hparen]

/-- The path of a member, whose types may read back or not. -/
theorem readPath_path {kind : Kind} (hkind : kind.isContractLike = false)
    {contract : String} (hcontract : IsPlain contract) {name : Option String}
    (hname : ∀ n ∈ name, IsPlain n) (types : Option (List String))
    (file : Option String) :
    readPath kind file (path ⟨file, some contract, name, types⟩)
      = ⟨file, some contract, name,
        types.map fun ts => readTypes (writtenTypes ts ++ [')'])⟩ := by
  have hpart : part? (name.getD "").toList = name := by
    cases name with
    | none => rfl
    | some n => exact part?_of_isPlain (hname n rfl)
  have hplain : name.getD "" ≠ "" → IsPlain (name.getD "") := by
    cases name with
    | none => exact fun h => absurd rfl h
    | some n => exact fun _ => hname n rfl
  obtain ⟨hbare, htyped⟩ := readMember_name _ hplain
  unfold path
  cases types with
  | none =>
      simp only [List.append_nil, List.append_assoc, List.cons_append,
        List.nil_append]
      rw [readPath_member hkind hcontract, hbare, hpart]
      rfl
  | some types =>
      simp only [List.append_assoc, List.cons_append, List.nil_append]
      rw [readPath_member hkind hcontract, htyped, hpart]
      rfl

-- ========================================================== whole targets

/-- What a target of a kind needs to be read back. -/
structure Readable (kind : Kind) (target : Target) : Prop where
  file : ∀ f ∈ target.file, f.toList ≠ [] ∧ trim f.toList = f.toList
  shape : if kind.isContractLike
    then target.contract = none ∧ target.name ≠ none ∧ target.paramTypes = none
    else target.contract ≠ none
  contract : ∀ c ∈ target.contract, IsPlain c
  name : ∀ n ∈ target.name, IsPlain n
  types : ∀ ts ∈ target.paramTypes, ReadsBack ts ∧ ∀ t ∈ ts, ':' ∉ t.toList

variable {kind : Kind} {target : Target}

theorem not_mem_writtenTypes {c : Char} (hc : c ≠ ',') {types : List String}
    (h : ∀ t ∈ types, c ∉ t.toList) : c ∉ writtenTypes types := by
  induction types with
  | nil => simp [writtenTypes]
  | cons t types ih =>
      have ht := h t (List.mem_cons_self ..)
      have hrest := ih fun u hu => h u (List.mem_cons_of_mem _ hu)
      unfold writtenTypes at hrest ⊢
      cases types with
      | nil => simpa using ht
      | cons u us =>
          rw [List.map_cons, List.map_cons, List.intercalate_cons_cons]
          simp_all

theorem Readable.colon_not_mem_path (h : target.Readable kind) :
    ':' ∉ target.path := by
  have hplain : ∀ {s : String}, IsPlain s → ':' ∉ s.toList := fun hs hc =>
    (hs.plain ':' hc).2.2.2 rfl
  have hcontract := fun c hc => hplain (h.contract c hc)
  have hname := fun n hn => hplain (h.name n hn)
  have htypes := fun ts hts =>
    not_mem_writtenTypes (by decide) (h.types ts hts).2
  obtain ⟨file, contract, name, types⟩ := target
  unfold path
  cases contract <;> cases name <;> cases types <;> simp_all

/-- A target is read back from the way it is written. -/
theorem Readable.read_render (h : target.Readable kind) :
    read kind target.render = target := by
  have hcolon := h.colon_not_mem_path
  have hpath : readPath kind target.file target.path = target := by
    obtain ⟨file, contract, name, types⟩ := target
    have hshape := h.shape
    cases hkind : kind.isContractLike with
    | true =>
        rw [hkind, if_pos rfl] at hshape
        obtain ⟨rfl, hname, rfl⟩ := hshape
        obtain ⟨n, rfl⟩ := Option.ne_none_iff_exists'.1 hname
        simpa [path] using readPath_name hkind (h.name n rfl) file
    | false =>
        rw [hkind, if_neg (by decide)] at hshape
        obtain ⟨c, rfl⟩ := Option.ne_none_iff_exists'.1 hshape
        rw [readPath_path hkind (h.contract c rfl) h.name]
        cases types with
        | none => rfl
        | some ts =>
            have hts : readTypes (writtenTypes ts ++ [')']) = ts :=
              readTypes_written_iff.2 (h.types ts rfl).1
            simp [hts]
  rw [read_eq, toList_render]
  cases hfile : target.file with
  | none =>
      rw [hfile] at hpath
      simp only [cutLast_eq_none_iff.2 hcolon, hpath]
  | some file =>
      obtain ⟨hne, htrim⟩ := h.file file hfile
      rw [hfile] at hpath
      simp only [cutLast_append hcolon, part?_of_trim hne htrim,
        String.ofList_toList, hpath]

/-- A target as the index and its readers write it: a name alone for a
contract-like declaration and a contract with a member for any other, with
types that are balanced, are one entry of a list each and stay what they are
when a target reads them. -/
structure Proper (kind : Kind) (target : Target) : Prop where
  file : ∀ f ∈ target.file, f ≠ "" ∧ trimmed f = f
  shape : if kind.isContractLike
    then target.contract = none ∧ target.name ≠ none ∧ target.paramTypes = none
    else target.contract ≠ none
  contract : ∀ c ∈ target.contract, IsPlain c
  name : ∀ n ∈ target.name, IsPlain n
  types : ∀ types ∈ target.paramTypes, ∀ t ∈ types, net t.toList = 0
    ∧ ':' ∉ t.toList ∧ splitTopLevel t = [t] ∧ overloadType t.toList = t

theorem Proper.readable (h : target.Proper kind) : target.Readable kind := by
  refine ⟨fun f hf => ?_, h.shape, h.contract, h.name, fun types htypes => ⟨?_, ?_⟩⟩
  · obtain ⟨hne, htrim⟩ := h.file f hf
    refine ⟨fun hnil => hne (String.toList_eq_nil_iff.1 hnil), ?_⟩
    rw [← String.toList_ofList (l := trim f.toList)]
    exact congrArg String.toList htrim
  · exact readsBack_of_entries fun t ht =>
      ⟨(h.types types htypes t ht).1, (h.types types htypes t ht).2.2⟩
  · exact fun t ht => (h.types types htypes t ht).2.1

/-- Reading undoes writing on proper targets, wherever their colons, points,
commas and blanks stand. -/
theorem read_render_of_proper (kind : Kind) (target : Target)
    (h : target.Proper kind) : read kind target.render = target :=
  h.readable.read_render

/-- The fallback function of a contract, with a colon and points in its file
and commas and blanks inside its types. -/
def fallbackTarget : Target where
  file := some "lib:v1.2/Pool.sol"
  contract := some "Pool"
  paramTypes := some ["mapping (address => uint) storage", "function(uint,bool)view"]

theorem fallbackTarget_read_back :
    fallbackTarget.render = "lib:v1.2/Pool.sol:Pool."
        ++ "(mapping (address => uint) storage,function(uint,bool)view)"
      ∧ read .function ("lib:v1.2/Pool.sol:Pool."
        ++ "(mapping (address => uint) storage,function(uint,bool)view)")
        = fallbackTarget := by
  have hrender : fallbackTarget.render = "lib:v1.2/Pool.sol:Pool."
      ++ "(mapping (address => uint) storage,function(uint,bool)view)" := by
    decide +kernel
  refine ⟨hrender, ?_⟩
  rw [← hrender]
  exact read_render_of_proper .function fallbackTarget
    { file := by rintro _ ⟨rfl⟩; decide
      shape := by decide
      contract := by rintro _ ⟨rfl⟩; decide
      name := fun n hn => (Option.not_mem_none n hn).elim
      types := by
        rintro _ ⟨rfl⟩
        decide +kernel }

-- ============================================================== queries

/-- The records that a target asks for. -/
theorem accepts_query_iff (target : Target) (kind : Kind) (record : Record) :
    (target.query kind).accepts record = true
      ↔ record.kind = kind ∧ record.name = target.name
        ∧ (∀ file ∈ target.file, record.file = file)
        ∧ (∀ contract ∈ target.contract, record.contract = some contract)
        ∧ ∀ types ∈ target.paramTypes, record.paramTypes = some types := by
  obtain ⟨file, contract, name, types⟩ := target
  cases file <;> cases contract <;> cases types <;>
    simp [query, Query.accepts, Query.agrees, and_assoc]

end Target

end ContractDocs
