/-
What documenting a contract writes: an outline of two levels, the entry of
the contract and one level deeper those of its members.

# Lines

Every operation of a page appends lines at its depth (`Page.lineAt`), so
what an entry is made of can be listed without a page: `headerLines`,
`contentLines`, and both at their depths (`entryLines`).

# The nesting ends

The documenter calls itself for every member it selects, and nothing in it
bounds how deep the calls nest. `Writes` is the relation of these calls to
the page they leave; it holds where they come to an end. `Documenter.entry`
counts levels instead, and runs out of them silently. A member of a
contract is no contract-like declaration itself when the registry keeps
those outside of any contract, so below a contract there is one level of
entries, `Writes` gives a page (`writes_scope_iff`), and the levels of
`entry` are enough for it (`entry_scope`).
-/
import ContractDocs.Docs.Documenter
import ContractDocs.Proofs.Registry.Refinement

namespace ContractDocs

-- ============================================================== lines

namespace Page

/-- A line as it stands at a depth: a blank one is empty. -/
def lineAt (depth : Nat) (line : String) : String :=
  if Text.isBlankText line.toList then "" else indentation depth ++ line

/-- One level is three spaces. -/
theorem indentation_succ (depth : Nat) :
    indentation (depth + 1) = indentation depth ++ "   " := by
  unfold indentation
  rw [Nat.mul_succ, List.replicate_add, String.ofList_append]
  rfl

/-- A line begins with the blanks of its depth, unless it is empty. -/
theorem lineAt_indented {depth : Nat} {line : String} (h : lineAt depth line ≠ "") :
    lineAt depth line = indentation depth ++ line := by
  unfold lineAt at h ⊢
  split
  · next hblank => exact absurd (if_pos hblank) h
  · rfl

theorem addLine_eq (page : Page) (line : String) :
    page.addLine line = { page with lines := page.lines ++ [lineAt page.depth line] } :=
  rfl

theorem addLines_eq (lines : List String) : ∀ page : Page,
    page.addLines lines
      = { page with lines := page.lines ++ lines.map (lineAt page.depth) } := by
  induction lines with
  | nil =>
      intro page
      rw [List.map_nil, List.append_nil]
      rfl
  | cons line lines ih =>
      intro page
      show (page.addLine line).addLines lines = _
      rw [ih, addLine_eq, List.map_cons, List.append_assoc]
      rfl

theorem addLines_append (page : Page) (xs ys : List String) :
    page.addLines (xs ++ ys) = (page.addLines xs).addLines ys :=
  List.foldl_append

end Page

namespace Documenter

/-- The line that names a record. -/
def directive (record : Record) : String :=
  ".. " ++ domain ++ ":" ++ record.kind.name ++ ":: " ++ record.signature

/-- The directive of a record, with its options. -/
def headerLines (options : DocOptions) (record : Record) : List String :=
  directive record :: if options.noindex then ["   :noindex:"] else []

/-- Lines below an empty one, if there are any. -/
def below (lines : List String) : List String :=
  if lines.isEmpty then [] else "" :: lines

/-- The documentation of a record, its members, and what the author adds. -/
def contentLines (record : Record) (more : List String) : List String :=
  (if record.doc.isEmpty then []
    else "" :: (Text.lines (NatSpec.render record.doc).toList).map String.ofList)
    ++ below (record.members.map Page.memberLine) ++ below more

/-- The lines of an entry without the entries below it. -/
def entryLines (options : DocOptions) (depth : Nat) (record : Record) (more : List String) :
    List String :=
  "" :: (headerLines options record).map (Page.lineAt depth)
    ++ (contentLines record more).map (Page.lineAt (depth + 1))

/-- The page with the opening of an entry on it, one level deeper. -/
def opened (options : DocOptions) (record : Record) (more : List String) (page : Page) : Page :=
  ((page.addLine "").addHeader options record).indent.addContent record more

theorem addHeader_eq (page : Page) (options : DocOptions) (record : Record) :
    page.addHeader options record = page.addLines (headerLines options record) := by
  unfold Page.addHeader headerLines
  split
  · rfl
  · rfl

theorem addSection_eq (page : Page) (lines : List String) :
    page.addSection lines = page.addLines (below lines) := by
  unfold Page.addSection below
  split
  · rfl
  · rfl

theorem addContent_eq (page : Page) (record : Record) (more : List String) :
    page.addContent record more = page.addLines (contentLines record more) := by
  unfold Page.addContent contentLines
  rw [Page.addLines_append, Page.addLines_append, addSection_eq, addSection_eq]
  split
  · rfl
  · rfl

/-- An entry is opened with its lines, and nothing else changes. -/
theorem opened_eq (options : DocOptions) (record : Record) (more : List String) (page : Page) :
    opened options record more page = { page with
      depth := page.depth + 1
      lines := page.lines ++ entryLines options page.depth record more } := by
  unfold opened entryLines
  rw [addHeader_eq, addContent_eq, Page.addLines_eq, Page.addLines_eq, Page.addLine_eq]
  simp [Page.indent, Page.lineAt, Text.isBlankText]

theorem dedent_opened (options : DocOptions) (record : Record) (more : List String)
    (page : Page) : (opened options record more page).dedent
      = { page with lines := page.lines ++ entryLines options page.depth record more } := by
  rw [opened_eq]
  rfl

-- ========================================================= the calls

/-- A call of the documenter: a record, what the author adds to its entry,
and whether all of its members are wanted. -/
structure Call where
  record : Record
  more : List String
  allMembers : Bool

/-- The calls for the members of a record. -/
def memberCalls (registry : Registry) (options : DocOptions) (call : Call) : List Call :=
  (selectedMembers registry options call.allMembers call.record).map (⟨·, [], true⟩)

/-- The calls, one after the other, come to an end and turn the first page
into the second. -/
inductive Writes (registry : Registry) (options : DocOptions) : List Call → Page → Page → Prop
  | nil {page : Page} : Writes registry options [] page page
  | leaf {call : Call} {calls : List Call} {page final : Page}
      (hkind : call.record.kind.isContractLike = false)
      (hrest : Writes registry options calls
        (opened options call.record call.more page).dedent final) :
      Writes registry options (call :: calls) page final
  | scope {call : Call} {calls : List Call} {page inner final : Page}
      (hkind : call.record.kind.isContractLike = true)
      (hmembers : Writes registry options (memberCalls registry options call)
        ((opened options call.record call.more page).addLine "") inner)
      (hrest : Writes registry options calls inner.dedent final) :
      Writes registry options (call :: calls) page final

variable {registry : Registry} {options : DocOptions}

/-- Calls for records that are no contract-like declarations write their
entries side by side. -/
theorem writes_leaves_iff {records : List Record}
    (h : ∀ r ∈ records, r.kind.isContractLike = false) (all : Bool) :
    ∀ page final : Page, Writes registry options (records.map (⟨·, [], all⟩)) page final
      ↔ final = { page with
        lines := page.lines ++ records.flatMap (entryLines options page.depth · []) } := by
  induction records with
  | nil =>
      intro page final
      rw [List.map_nil, List.flatMap_nil, List.append_nil]
      constructor
      · intro hwrites
        cases hwrites
        rfl
      · intro hfinal
        rw [hfinal]
        exact .nil
  | cons record records ih =>
      intro page final
      have hrecord := h record (List.mem_cons_self ..)
      have ih := ih fun r hr => h r (List.mem_cons_of_mem _ hr)
      rw [List.map_cons, List.flatMap_cons]
      constructor
      · intro hwrites
        cases hwrites with
        | leaf _ hrest =>
            rw [dedent_opened] at hrest
            rw [(ih _ _).1 hrest, ← List.append_assoc]
        | scope hkind _ _ => simp [hrecord] at hkind
      · intro hfinal
        refine .leaf hrecord ?_
        rw [dedent_opened, ih, hfinal, ← List.append_assoc]

/-- What `entry` writes for a record that is no contract-like declaration. -/
theorem entry_leaf {record : Record} (h : record.kind.isContractLike = false) (levels : Nat)
    (more : List String) (all : Bool) (page : Page) :
    entry registry options (levels + 1) record more all page
      = { page with lines := page.lines ++ entryLines options page.depth record more } := by
  rw [← dedent_opened, entry, h, if_neg Bool.false_ne_true]
  rfl

/-- One level is enough for entries without entries below them. -/
theorem foldl_entry_leaves {records : List Record}
    (h : ∀ r ∈ records, r.kind.isContractLike = false) (levels : Nat) :
    ∀ page : Page, records.foldl
      (fun page r => entry registry options (levels + 1) r [] true page) page
        = { page with
          lines := page.lines ++ records.flatMap (entryLines options page.depth · []) } := by
  induction records with
  | nil =>
      intro page
      rw [List.flatMap_nil, List.append_nil]
      rfl
  | cons record records ih =>
      intro page
      rw [List.foldl_cons, entry_leaf (h record (List.mem_cons_self ..)),
        ih fun r hr => h r (List.mem_cons_of_mem _ hr), List.flatMap_cons, List.append_assoc]

-- ======================================================= the outline

/-- The lines of an entry with those of its members one level deeper. -/
def outline (options : DocOptions) (depth : Nat) (record : Record) (more : List String)
    (members : List Record) : List String :=
  entryLines options depth record more
    ++ "" :: members.flatMap (entryLines options (depth + 1) · [])

/-- The page behind the members of an entry, one level back. -/
theorem dedent_members (record : Record) (more : List String) (members : List Record)
    (page : Page) :
    let inner := (opened options record more page).addLine ""
    { inner with
      lines := inner.lines ++ members.flatMap (entryLines options inner.depth · []) }.dedent
      = { page with lines := page.lines ++ outline options page.depth record more members } := by
  rw [opened_eq, Page.addLine_eq]
  simp [outline, Page.dedent, Page.lineAt, Text.isBlankText]

section Scope

variable {record : Record} {all : Bool}

/-- The calls for a contract-like declaration end with its outline, when
none of its members is one. -/
theorem writes_scope_iff (hkind : record.kind.isContractLike = true)
    (hleaves : ∀ m ∈ selectedMembers registry options all record,
      m.kind.isContractLike = false) (more : List String) (page final : Page) :
    Writes registry options [⟨record, more, all⟩] page final
      ↔ final = { page with
        lines := page.lines ++ outline options page.depth record more
          (selectedMembers registry options all record) } := by
  rw [← dedent_members]
  constructor
  · intro hwrites
    cases hwrites with
    | leaf hleaf _ => simp [hkind] at hleaf
    | scope _ hmembers hrest =>
        cases hrest
        rw [(writes_leaves_iff hleaves true _ _).1 hmembers]
  · intro hfinal
    rw [hfinal]
    exact .scope hkind ((writes_leaves_iff hleaves true _ _).2 rfl) .nil

/-- The same page, reached by counting levels. -/
theorem entry_scope (hkind : record.kind.isContractLike = true)
    (hleaves : ∀ m ∈ selectedMembers registry options all record,
      m.kind.isContractLike = false)
    {levels : Nat} (hlevels : selectedMembers registry options all record ≠ [] → 0 < levels)
    (more : List String) (page : Page) :
    entry registry options (levels + 1) record more all page
      = { page with
        lines := page.lines ++ outline options page.depth record more
          (selectedMembers registry options all record) } := by
  rw [← dedent_members, entry, hkind, if_pos rfl]
  cases levels with
  | zero =>
      -- without a level left there is no member to write
      have hnone : selectedMembers registry options all record = [] := by
        by_contra hne
        exact absurd (hlevels hne) (Nat.lt_irrefl 0)
      rw [hnone, List.flatMap_nil, List.append_nil]
      rfl
  | succ levels =>
      rw [foldl_entry_leaves hleaves]
      rfl

end Scope

-- ================================================ the members written

/-- The members of a record that are documented, out of the records of a
registry. -/
def documentedMembers (records : List Record) (options : DocOptions) (all : Bool)
    (record : Record) : List Record :=
  if all || options.members ≠ .none then
    records.filter fun m => m.file = record.file ∧ m.contract = record.name
      ∧ options.isSelected (all || options.members = .all) m
  else []

theorem selectedMembers_eq (ops : List Registry.Op) (options : DocOptions) (all : Bool)
    {record : Record} {contract : String} (hname : record.name = some contract) :
    selectedMembers (Registry.run ops) options all record
      = documentedMembers (Registry.contents ops) options all record := by
  have hwanted : (!(all || decide (options.members = .all)) && decide (options.members = .none))
      = !(all || decide (options.members ≠ .none)) := by
    cases all with
    | true => rfl
    | false => cases options.members <;> rfl
  have hfound : ∀ wantAll,
      ((Registry.run ops).membersOf (some record.file) contract).filter
          (options.isSelected wantAll)
        = (Registry.contents ops).filter fun m => m.file = record.file
          ∧ m.contract = some contract ∧ options.isSelected wantAll m := by
    intro wantAll
    rw [(Registry.refines_run ops).membersOf, List.filter_filter]
    refine List.filter_congr fun m _ => ?_
    rw [Bool.eq_iff_iff]
    simp only [Bool.and_eq_true, decide_eq_true_eq, Option.mem_def, Option.some.injEq]
    constructor
    · intro ⟨hselected, hfile, hcontract⟩
      exact ⟨hfile _ rfl, hcontract, hselected⟩
    · intro ⟨hfile, hcontract, hselected⟩
      exact ⟨hselected, fun f hf => hfile.trans hf, hcontract⟩
  unfold selectedMembers documentedMembers
  simp only [hwanted, hname, hfound]
  cases all || decide (options.members ≠ .none) with
  | true => rfl
  | false => rfl

theorem documentedMembers_subset (records : List Record) (options : DocOptions) (all : Bool)
    (record : Record) : documentedMembers records options all record ⊆ records := by
  unfold documentedMembers
  split
  · exact List.filter_subset_self _
  · exact List.nil_subset _

/-- Contract-like declarations that stand outside of any contract are no
members. -/
theorem isContractLike_of_mem_documentedMembers {records : List Record}
    (hscopes : ∀ m ∈ records, m.kind.isContractLike = true → m.contract = none)
    (options : DocOptions) (all : Bool) {record : Record} {contract : String}
    (hname : record.name = some contract) :
    ∀ m ∈ documentedMembers records options all record, m.kind.isContractLike = false := by
  intro m hm
  have hmem := documentedMembers_subset records options all record hm
  unfold documentedMembers at hm
  split at hm
  · have hmatch := (List.mem_filter.1 hm).2
    rw [decide_eq_true_eq, hname] at hmatch
    by_contra hkind
    rw [hscopes m hmem (Bool.not_eq_false _ ▸ hkind)] at hmatch
    cases hmatch.2.1
  · cases hm

-- ===================================================== the indentation

/-- The line is empty, or begins with the blanks of a depth. -/
def Indented (depth : Nat) (line : String) : Prop :=
  line = "" ∨ ∃ text, line = Page.indentation depth ++ text

theorem Indented.of_succ {depth : Nat} {line : String} (h : Indented (depth + 1) line) :
    Indented depth line := by
  rcases h with h | ⟨text, h⟩
  · exact .inl h
  · exact .inr ⟨"   " ++ text, by rw [h, Page.indentation_succ, String.append_assoc]⟩

theorem indented_lineAt (depth : Nat) (line : String) :
    Indented depth (Page.lineAt depth line) := by
  by_cases hempty : Page.lineAt depth line = ""
  · exact .inl hempty
  · exact .inr ⟨line, Page.lineAt_indented hempty⟩

/-- A directive is never blank. -/
theorem lineAt_directive (depth : Nat) (record : Record) :
    Page.lineAt depth (directive record) = Page.indentation depth ++ directive record := by
  have hdot : Text.isBlankText (directive record).toList = false := by
    have hblank : Text.isBlank '.' = false := by decide
    simp [directive, Text.isBlankText, hblank]
  unfold Page.lineAt
  rw [hdot, if_neg Bool.false_ne_true]

/-- The option of a directive stands one level below it. -/
theorem indented_noindex (depth : Nat) :
    Indented (depth + 1) (Page.lineAt depth "   :noindex:") := by
  refine .inr ⟨":noindex:", ?_⟩
  unfold Page.lineAt
  rw [if_neg (by decide), Page.indentation_succ, String.append_assoc]
  rfl

/-- Of the lines of an entry only the directive stands at its depth, and all
others are deeper. -/
theorem entryLines_eq_directive (options : DocOptions) (depth : Nat) (record : Record)
    (more : List String) :
    ∃ body, entryLines options depth record more
        = "" :: (Page.indentation depth ++ directive record) :: body
      ∧ ∀ line ∈ body, Indented (depth + 1) line := by
  refine ⟨_, by rw [entryLines, headerLines, List.map_cons, lineAt_directive]; rfl, ?_⟩
  intro line hline
  rcases List.mem_append.1 hline with hline | hline
  · split at hline
    · rw [List.map_singleton, List.mem_singleton] at hline
      rw [hline]
      exact indented_noindex depth
    · cases hline
  · obtain ⟨text, -, htext⟩ := List.mem_map.1 hline
    rw [← htext]
    exact indented_lineAt _ _

theorem indented_of_mem_entryLines {options : DocOptions} {depth : Nat} {record : Record}
    {more : List String} {line : String} (h : line ∈ entryLines options depth record more) :
    Indented depth line := by
  obtain ⟨body, heq, hbody⟩ := entryLines_eq_directive options depth record more
  rw [heq, List.mem_cons, List.mem_cons] at h
  rcases h with h | h | h
  · exact .inl h
  · exact .inr ⟨_, h⟩
  · exact (hbody line h).of_succ

/-- Of an outline too. -/
theorem outline_eq_directive (options : DocOptions) (depth : Nat) (record : Record)
    (more : List String) (members : List Record) :
    ∃ body, outline options depth record more members
        = "" :: (Page.indentation depth ++ directive record) :: body
      ∧ ∀ line ∈ body, Indented (depth + 1) line := by
  obtain ⟨body, heq, hbody⟩ := entryLines_eq_directive options depth record more
  refine ⟨body ++ "" :: members.flatMap (entryLines options (depth + 1) · []),
    by rw [outline, heq]; rfl, ?_⟩
  intro line hline
  rcases List.mem_append.1 hline with hline | hline
  · exact hbody line hline
  · rcases List.mem_cons.1 hline with hline | hline
    · exact .inl hline
    · obtain ⟨m, -, hmember⟩ := List.mem_flatMap.1 hline
      exact indented_of_mem_entryLines hmember

end Documenter

-- ========================================================= the contract

/-- Documenting a contract-like declaration writes an outline of two levels.
Where the registry keeps contract-like declarations outside of any contract,
the calls end, with one page: the lines of the declaration, an empty one, and
the lines of each documented member one level deeper are appended, depth and
diagnostics are what they were, no member has entries below it, and every
line but the directive of the declaration is indented below it. -/
theorem Documenter.document_writes_outline (ops : List Registry.Op)
    (hscopes : ∀ m ∈ Registry.contents ops, m.kind.isContractLike = true → m.contract = none)
    (options : DocOptions) (record : Record) (contract : String)
    (hkind : record.kind.isContractLike = true) (hname : record.name = some contract)
    (more : List String) (all : Bool) (page : Page) :
    let members := documentedMembers (Registry.contents ops) options all record
    let lines := outline options page.depth record more members
    (∀ final, Writes (Registry.run ops) options [⟨record, more, all⟩] page final
        ↔ final = document (Registry.run ops) options record more all page)
      ∧ document (Registry.run ops) options record more all page
        = { page with lines := page.lines ++ lines }
      ∧ (∀ m ∈ members, m.kind.isContractLike = false)
      ∧ (∀ line ∈ lines, Indented page.depth line)
      ∧ ∃ body, lines = "" :: (Page.indentation page.depth ++ directive record) :: body
        ∧ ∀ line ∈ body, Indented (page.depth + 1) line := by
  have hmembers := selectedMembers_eq ops options all hname
  have hleaves := isContractLike_of_mem_documentedMembers hscopes options all hname
  have hsubset := documentedMembers_subset (Registry.contents ops) options all record
  rw [← hmembers] at hleaves hsubset ⊢
  -- a member is a record of the registry, which then leaves a level for it
  have hlevels : selectedMembers (Registry.run ops) options all record ≠ [] →
      0 < (Registry.run ops).size := by
    intro hne
    obtain ⟨m, hm⟩ := List.exists_mem_of_ne_nil _ hne
    rw [(Registry.refines_run ops).size]
    exact List.length_pos_of_mem (hsubset hm)
  have hdocument := entry_scope hkind hleaves hlevels more page
  obtain ⟨body, hbody, hdeeper⟩ := outline_eq_directive options page.depth record more
    (selectedMembers (Registry.run ops) options all record)
  refine ⟨fun final => ?_, hdocument, hleaves, fun line hline => ?_, body, hbody, hdeeper⟩
  · rw [writes_scope_iff hkind hleaves, document, maxLevels, hdocument]
  · rw [hbody, List.mem_cons, List.mem_cons] at hline
    rcases hline with hline | hline | hline
    · exact .inl hline
    · exact .inr ⟨_, hline⟩
    · exact (hdeeper line hline).of_succ

/-- A contract that inherits from another one. -/
def wallet : Record :=
  { kind := .contract, file := "Wallet.sol", line := 1, doc := "Holds ether."
    parts := .typeLike ⟨"Wallet", ["Ownable"]⟩ }

/-- The contract with a documented event and an undocumented function, and a
member of a contract of the same name in another file. -/
def walletOps : List Registry.Op :=
  [.insert wallet,
    .insert { kind := .event, file := "Wallet.sol", line := 3, contract := some "Wallet"
              parts := .callable ⟨some "Sent", [⟨"uint", none, some "v"⟩], [], none⟩
              doc := "Money left.\n@param v how much" },
    .insert { kind := .function, file := "Other.sol", line := 2, contract := some "Wallet"
              parts := .callable ⟨some "send", [], [], none⟩, doc := "Elsewhere." },
    .insert { kind := .function, file := "Wallet.sol", line := 5, contract := some "Wallet"
              parts := .callable ⟨some "send", [], [], none⟩ }]

/-- The event is documented below its contract, and neither function is. -/
theorem walletOps_outlined :
    (∀ m ∈ Registry.contents walletOps, m.kind.isContractLike = true → m.contract = none)
      ∧ wallet.kind.isContractLike = true ∧ wallet.name = some "Wallet"
      ∧ Documenter.document (Registry.run walletOps) { members := .all, noindex := true }
        wallet ["More."] false { depth := 1 }
        = { depth := 1
            lines := [
              "", "   .. sol:contract:: Wallet is Ownable", "      :noindex:",
              "", "      Holds ether.", "", "      More.", "",
              "", "      .. sol:event:: Sent(uint v)", "         :noindex:",
              "", "         Money left.", "", "         :param v: how much"] } := by
  have hscopes : ∀ m ∈ Registry.contents walletOps,
      m.kind.isContractLike = true → m.contract = none := by
    decide
  have hname : wallet.name = some "Wallet" := rfl
  obtain ⟨-, hdocument, -⟩ := Documenter.document_writes_outline walletOps hscopes
    { members := .all, noindex := true } wallet "Wallet" rfl hname ["More."] false { depth := 1 }
  refine ⟨hscopes, rfl, hname, ?_⟩
  rw [hdocument]
  decide +kernel

end ContractDocs
