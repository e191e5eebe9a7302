/-
The header of a declaration, collected from its node and typed as a directive.

The two readers agree on a declaration exactly where its canonical header is
one that typed headers come to (`reads_alike_iff`), and the grammar accepts
more than that. They agree where the collected parts are `Legible` and the
header is not refused by rule; and where it is refused, the reason is the rule
that was broken. What collecting the parts contributes is
`CallableHeader.Collected`: types arrive in canonical spelling and arguments
cut at their commas, so neither changes when the header is read. A callable
arrives without a name only if it is a function (`kind_of_nameless`).

An array that is public and constant is not legible, and its line comes back
spelled otherwise (`arrayLine_respelled`).
-/
import ContractDocs.Proofs.Signature.Legible
import ContractDocs.Source.Declaration

namespace ContractDocs

open Text Grouping

-- ===================================================== collected parts

/-- Arguments cut from a text are found again in their canonical form. -/
theorem Modifier.args_of_ofText {text name : String} {args : List String}
    (h : Modifier.ofText text = .call name args) :
    (splitTopLevelChars (joined args)).map String.ofList = args := by
  unfold ofText at h
  split at h
  · split at h
    · next inside _ _ =>
        cases h
        rw [(splitTopLevelChars_joined inside).1]
    · cases h
  · cases h

namespace Source

variable {source : Source} {node : Node}

theorem canonical_of_mem_params {param : Param} (h : param ∈ source.params node) :
    TypeName.canonical param.typeName = param.typeName := by
  obtain ⟨child, -, hchild⟩ := List.mem_filterMap.1 h
  obtain ⟨type, -, rfl⟩ := Option.map_eq_some_iff.1 hchild
  exact TypeName.canonical_canonical _

theorem canonical_of_variableHeader? {header : VariableHeader}
    (h : source.variableHeader? node = some header) :
    TypeName.canonical header.typeName = header.typeName := by
  rw [variableHeader?] at h
  split at h
  · cases h
    exact TypeName.canonical_canonical _
  · cases h

theorem args_of_modifier? {child : Node} {name : String} {args : List String}
    (h : source.modifier? child = some (.call name args)) :
    (splitTopLevelChars (joined args)).map String.ofList = args := by
  unfold modifier? at h
  split at h
  case h_2 | h_3 => exact Modifier.args_of_ofText (Option.some.inj h)
  case h_9 =>
    dsimp only at h
    split at h <;> cases h
  all_goals cases h

theorem collected_of_callableHeader? {header : CallableHeader}
    (h : source.callableHeader? node = some header) : header.Collected := by
  rw [callableHeader?] at h
  split at h
  · cases h
  · cases h
    refine ⟨fun p hp => canonical_of_mem_params hp, fun name args hmem => ?_,
      fun ps hps p hp => ?_⟩
    · obtain ⟨child, -, hchild⟩ := List.mem_filterMap.1 hmem
      exact args_of_modifier? hchild
    · obtain ⟨list, -, rfl⟩ := Option.map_eq_some_iff.1 hps
      exact canonical_of_mem_params hp

/-- Only functions lack a name. -/
theorem kind_of_nameless {kind : Kind} {header : CallableHeader}
    (hkind : node.declares? = some kind) (h : source.callableHeader? node = some header)
    (hname : header.name = none) : kind = .function := by
  rw [callableHeader?] at h
  split at h
  · cases h
  · next hnameless =>
      cases h
      have hkinds : node.kind = "function_definition"
          ∨ node.kind = "fallback_receive_definition" := by
        have hname : source.callableName? node = none := hname
        rw [hname, Option.isNone_none, Bool.true_and, Bool.not_eq_true',
          Bool.not_eq_false, Bool.or_eq_true, beq_iff_eq, beq_iff_eq] at hnameless
        exact hnameless
      have hfunction : node.declares? = some .function := by
        rcases hkinds with hnode | hnode <;> simp [Node.declares?, hnode]
      exact Option.some.inj (hkind.symm.trans hfunction)

-- ========================================================= agreement

/-- A canonical header is read alike exactly if some header comes to it. -/
theorem reads_alike_iff (kind : Kind) (s : Signature) :
    (∃ s', Signature.read kind s.render = .ok s' ∧ s'.render = s.render)
      ↔ ∃ header s', Signature.read kind header = .ok s' ∧ s'.render = s.render := by
  constructor
  · rintro ⟨s', hread, hrender⟩
    exact ⟨s.render, s', hread, hrender⟩
  · rintro ⟨header, s', hread, hrender⟩
    exact ⟨s', hrender ▸ Signature.read_render hread, hrender⟩

/-- When the parts are legible, the canonical header is accepted and read as
parts with the same canonical header, or else it breaks a rule and is refused
with the reason. -/
theorem map_render_read_of_legible {kind : Kind} {s : Signature}
    (hkind : node.declares? = some kind) (hs : source.signature? node kind = some s)
    (h : s.Legible) :
    (Signature.read kind s.render).map Signature.render
      = (s.refusal? kind).elim (.ok s.render) .error := by
  cases kind with
  | contract | library | interface | struct | enum =>
      obtain ⟨header, -, rfl⟩ := Option.map_eq_some_iff.1 hs
      have hread := TypeHeader.read_render_of_isName h.name h.bases
      show ((TypeHeader.read _).map Signature.typeLike).map Signature.render = _
      rw [Signature.render, hread]
      rfl
  | stateVar =>
      obtain ⟨header, hheader, rfl⟩ := Option.map_eq_some_iff.1 hs
      obtain ⟨header', hread, hrender⟩ :=
        h.exists_read (canonical_of_variableHeader? hheader)
      show ((VariableHeader.read _).map Signature.stateVar).map Signature.render = _
      rw [Signature.render, hread]
      exact congrArg Except.ok hrender
  | constructor | function | modifier | event =>
      obtain ⟨header, hheader, rfl⟩ := Option.map_eq_some_iff.1 hs
      refine Eq.trans ?_ (h.map_render_read (collected_of_callableHeader? hheader)
        (kind_of_nameless hkind hheader))
      show ((CallableHeader.read _ _).map Signature.callable).map Signature.render = _
      rw [Signature.render]
      cases CallableHeader.read _ header.render.toList with
      | error _ => rfl
      | ok _ => rfl

/-- The header of a declaration is read as it was collected exactly if its
canonical header is one that typed headers come to. This is so when the parts
are legible, except that a header which breaks a rule is refused with the
reason. -/
theorem declared_header_reads_alike (source : Source) (node : Node) (kind : Kind)
    (s : Signature) (hkind : node.declares? = some kind)
    (hs : source.signature? node kind = some s) :
    ((∃ s', Signature.read kind s.render = .ok s' ∧ s'.render = s.render)
        ↔ ∃ header s', Signature.read kind header = .ok s' ∧ s'.render = s.render)
      ∧ (s.Legible → (Signature.read kind s.render).map Signature.render
        = (s.refusal? kind).elim (.ok s.render) .error) :=
  ⟨reads_alike_iff kind s, map_render_read_of_legible hkind hs⟩

-- ====================================================== three headers

/-- A state variable with two modifiers. -/
def constantLine : Node :=
  ⟨"state_variable_declaration", true, none, 11, 36, 0,
    [⟨"type_name", true, some "type", 11, 15, 0, []⟩,
      ⟨"visibility", true, some "visibility", 16, 22, 0, []⟩,
      ⟨"constant", false, none, 23, 31, 0, []⟩,
      ⟨"identifier", true, some "name", 32, 33, 0, []⟩]⟩

/-- A modifier that may be overridden. -/
def virtualModifier : Node :=
  ⟨"modifier_definition", true, none, 36, 56, 0,
    [⟨"identifier", true, some "name", 45, 46, 0, []⟩,
      ⟨"virtual", true, none, 48, 55, 0, []⟩]⟩

/-- A function with a nameless parameter, whose type ends in a word. -/
def guardedFunction : Node :=
  ⟨"function_definition", true, none, 56, 156, 0,
    [⟨"identifier", true, some "name", 65, 68, 0, []⟩,
      ⟨"parameter", true, none, 69, 102, 0,
        [⟨"type_name", true, some "type", 69, 93, 0, []⟩,
          ⟨"storage", false, some "location", 93, 100, 0, []⟩,
          ⟨"identifier", true, some "name", 101, 102, 0, []⟩]⟩,
      ⟨"parameter", true, none, 103, 118, 0,
        [⟨"type_name", true, some "type", 103, 118, 0, []⟩]⟩,
      ⟨"modifier_invocation", true, none, 119, 135, 0, []⟩,
      ⟨"visibility", true, none, 135, 141, 0, []⟩,
      ⟨"return_type_definition", true, some "return_type", 142, 155, 0,
        [⟨"parameter", true, none, 150, 154, 0,
          [⟨"type_name", true, some "type", 150, 154, 0, []⟩]⟩]⟩]⟩

/-- A contract that declares the three. -/
def declaringFile : Source where
  path := "C.sol"
  bytes := ("contract C\x7buint public constant N=1;modifier m()virtual;"
    ++ "function pay(mapping(address=>uint[])storage s,address payable)"
    ++ "guard(1,f(2, 3))public returns(bool);\x7d").toUTF8
  recovered := false
  root := ⟨"source_file", true, none, 0, 157, 0,
    [⟨"contract_declaration", true, none, 0, 157, 0,
      [⟨"identifier", true, some "name", 9, 10, 0, []⟩,
        ⟨"contract_body", true, some "body", 10, 157, 0,
          [constantLine, virtualModifier, guardedFunction]⟩]⟩]⟩

/-- The parts of the three headers. -/
def constantParts : Signature :=
  .stateVar ⟨"uint", ["public", "constant"], "N"⟩

@[inherit_doc constantParts]
def virtualParts : Signature :=
  .callable ⟨some "m", [], [.word "virtual"], none⟩

@[inherit_doc constantParts]
def guardedParts : Signature :=
  .callable
    { name := some "pay"
      params := [⟨"mapping (address => uint[])", some "storage", some "s"⟩,
        ⟨"address payable", none, none⟩]
      modifiers := [.call "guard" ["1", "f(2, 3)"], .word "public"]
      returns := some [⟨"bool", none, none⟩] }

/-- The modifier is refused. The others are read as parts that are written
alike: `constant` stays with its type, and `payable` is taken for a name. -/
theorem declaringFile_headers :
    (declaringFile.signature? constantLine .stateVar = some constantParts
      ∧ constantParts.render = "uint public constant N"
      ∧ (Signature.read .stateVar constantParts.render).map Signature.render
        = .ok constantParts.render)
    ∧ (declaringFile.signature? virtualModifier .modifier = some virtualParts
      ∧ virtualParts.render = "m() virtual"
      ∧ (Signature.read .modifier virtualParts.render).map Signature.render
        = .error .modifierTail)
    ∧ declaringFile.signature? guardedFunction .function = some guardedParts
      ∧ guardedParts.render = "pay(mapping (address => uint[]) storage s, address payable)"
        ++ " guard(1, f(2, 3)) public returns (bool)"
      ∧ (Signature.read .function guardedParts.render).map Signature.render
        = .ok guardedParts.render := by
  have hconstant : declaringFile.signature? constantLine .stateVar
      = some constantParts := by decide +kernel
  have hvirtual : declaringFile.signature? virtualModifier .modifier
      = some virtualParts := by decide +kernel
  have hguarded : declaringFile.signature? guardedFunction .function
      = some guardedParts := by decide +kernel
  refine ⟨⟨hconstant, by decide +kernel, ?_⟩, ⟨hvirtual, by decide +kernel, ?_⟩,
    hguarded, by decide +kernel, ?_⟩
  · exact (declared_header_reads_alike _ _ _ _ (by decide) hconstant).2 (by decide +kernel)
  · exact (declared_header_reads_alike _ _ _ _ (by decide) hvirtual).2 (by decide +kernel)
  · exact (declared_header_reads_alike _ _ _ _ (by decide) hguarded).2 (by decide +kernel)

/-- An array that is public and constant. -/
def arrayLine : Node :=
  ⟨"state_variable_declaration", true, none, 11, 38, 0,
    [⟨"type_name", true, some "type", 11, 17, 0, []⟩,
      ⟨"visibility", true, some "visibility", 18, 24, 0, []⟩,
      ⟨"constant", false, none, 25, 33, 0, []⟩,
      ⟨"identifier", true, some "name", 34, 35, 0, []⟩,
      ⟨"=", false, none, 35, 36, 0, []⟩,
      ⟨"expression", true, some "value", 36, 37, 0, []⟩,
      ⟨";", false, none, 37, 38, 0, []⟩]⟩

/-- A contract that declares it. -/
def arrayFile : Source where
  path := "C.sol"
  bytes := "contract C\x7buint[] public constant X=1;\x7d".toUTF8
  recovered := false
  root := ⟨"source_file", true, none, 0, 39, 0,
    [⟨"contract_declaration", true, none, 0, 39, 0,
      [⟨"identifier", true, some "name", 9, 10, 0, []⟩,
        ⟨"contract_body", true, some "body", 10, 39, 0, [arrayLine]⟩]⟩]⟩

/-- Not every header that is collected is read alike: the space between the
type and `public` is lost. -/
theorem arrayLine_respelled :
    arrayLine.declares? = some .stateVar
      ∧ arrayFile.signature? arrayLine .stateVar = some .arrayConstant
      ∧ ¬ ∃ s', Signature.read .stateVar Signature.arrayConstant.render = .ok s'
        ∧ s'.render = Signature.arrayConstant.render := by
  refine ⟨by decide, by decide +kernel, ?_⟩
  obtain ⟨-, ⟨-, hrender, hread⟩, -⟩ := Signature.illegible_lines
  rintro ⟨s', hs', hrender'⟩
  rw [hs', Except.map, hrender', hrender, Except.ok.injEq] at hread
  exact absurd hread (by decide)

end Source

end ContractDocs
