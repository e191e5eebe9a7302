/-
The table that `signature` prints, and its last row, the target.

The index knows a declaration by its identifier, which has a type list where
the kind may be overloaded and says `<fallback>` where a name is missing.
The table asks the parts instead: it prints a type list wherever there are
parameters, and nothing in the place of a name. For an accepted header the
two agree unless it is that of a constructor or a modifier, whose parameters
the identifier leaves out, or of the fallback function
(`printed_target_iff`).
-/
import ContractDocs.CommandLine.Run
import ContractDocs.Proofs.Signature.Grammar
import ContractDocs.Record

namespace ContractDocs

open Text

-- ===================================================== accepted headers

/-- Without a name only a function is accepted, and it has no parameters. -/
theorem CallableHeader.fallback_of_read {kind : Kind} {text : List Char}
    {header : CallableHeader} (h : read kind text = .ok header)
    (hname : header.name = none) : kind = .function ∧ header.params = [] := by
  obtain ⟨written, list, rest, tail, -, hsettled, hparams, -⟩ := read_eq_ok_iff.1 h
  obtain ⟨hnamed, hrecorded⟩ := settleName_eq_ok_iff.1 hsettled
  have hwritten : written = none := by
    cases written with
    | none => rfl
    | some name =>
        rw [hname] at hrecorded
        cases hrecorded
  obtain rfl | ⟨rfl, hblank⟩ := hnamed hwritten
  · rw [hname, hwritten] at hrecorded
    cases hrecorded
  · rw [readParams, Grouping.splitTopLevelChars_of_blank hblank] at hparams
    exact ⟨rfl, (Except.ok.inj hparams).symm⟩

/-- The parts of an accepted header are those of its kind: callable parts, or
parts with a name and without parameters. -/
theorem Signature.shape_of_read {kind : Kind} {header : String} {sig : Signature}
    (h : read kind header = .ok sig) :
    (kind ∈ [.constructor, .function, .event, .modifier]
        ∧ ∃ callable, sig = .callable callable
          ∧ CallableHeader.read kind header.toList = .ok callable)
      ∨ (kind ∉ [.constructor, .function, .event, .modifier]
        ∧ sig.paramTypes = none ∧ sig.name ≠ none) := by
  by_cases hkind : kind ∈ [.constructor, .function, .event, .modifier]
  · rw [read_eq_callable hkind] at h
    obtain ⟨callable, hread, rfl⟩ := map_eq_ok_iff.1 h
    exact .inl ⟨hkind, callable, rfl, hread⟩
  · refine .inr ⟨hkind, ?_⟩
    cases kind with
    | constructor | function | event | modifier => exact absurd (by decide) hkind
    | stateVar | contract | library | interface | struct | enum =>
        obtain ⟨header, -, rfl⟩ := map_eq_ok_iff.1 h
        exact ⟨rfl, Option.some_ne_none _⟩

-- ============================================================ the table

namespace CommandLine

/-- A list of types in parentheses, where there is one. -/
def typeList : Option (List String) → String
  | some types => "(" ++ ",".intercalate types ++ ")"
  | none => ""

/-- What the table has for a target. -/
def printedTarget (sig : Signature) : String :=
  sig.name.getD "" ++ typeList sig.paramTypes

/-- A line of the table. -/
def tableLine (colored : Bool) (row : String × String) : String :=
  Paint.dim.apply colored (padRight 12 row.1) ++ row.2 ++ "\n"

theorem targetText_eq {sig : Signature} (h : sig.paramTypes ≠ none ∨ sig.name ≠ none) :
    targetText sig = some (printedTarget sig) := by
  unfold targetText printedTarget
  cases htypes : sig.paramTypes with
  | some types => simp [typeList, String.append_assoc]
  | none =>
      obtain ⟨name, hname⟩ := Option.ne_none_iff_exists'.1 (h.resolve_left (· htypes))
      simp [typeList, hname]

theorem targetId_eq (kind : Kind) (file : String) (sig : Signature) (line : Nat) :
    ({ kind, file, parts := sig, line } : Record).targetId
      = sig.name.getD "<fallback>"
        ++ typeList (if kind.isOverloadable then sig.paramTypes else none) := by
  unfold Record.targetId Record.qualifiedName Record.paramTypes Record.name
  cases kind.isOverloadable <;> cases sig.paramTypes <;>
    simp [typeList, String.append_assoc]

/-- The printed target is the identifier of a record with these parts, unless
the record is a constructor, a modifier or nameless. -/
theorem printedTarget_eq_targetId_iff {kind : Kind} {header : String} {sig : Signature}
    (h : Signature.read kind header = .ok sig) (file : String) (line : Nat) :
    printedTarget sig = ({ kind, file, parts := sig, line } : Record).targetId
      ↔ sig.name ≠ none ∧ kind ≠ .constructor ∧ kind ≠ .modifier := by
  rw [targetId_eq, printedTarget]
  obtain ⟨hkind, callable, rfl, hread⟩ | ⟨hkind, htypes, hname⟩ := Signature.shape_of_read h
  · have hfallback := CallableHeader.fallback_of_read hread
    cases hname : (Signature.callable callable).name with
    | none =>
        obtain ⟨rfl, hparams⟩ := hfallback hname
        have htypes : (Signature.callable callable).paramTypes = some [] := by
          simp [Signature.paramTypes, CallableHeader.paramTypes, hparams]
        -- a sign stands in the identifier where the table has nothing
        rw [htypes]
        simp [Kind.isOverloadable, typeList]
    | some name =>
        have hlist : typeList (Signature.callable callable).paramTypes ≠ "" := by
          simp [Signature.paramTypes, typeList]
        have hnone : typeList none = "" := rfl
        fin_cases hkind <;> simp [Kind.isOverloadable, hlist, hnone]
  · obtain ⟨name, hname⟩ := Option.ne_none_iff_exists'.1 hname
    have hkinds : kind ≠ .constructor ∧ kind ≠ .modifier := by
      constructor <;> (rintro rfl; exact hkind (by decide))
    simp [htypes, hname, hkinds]

/-- For an accepted header `signature` prints a table with one row for a
target, its last. What stands there is the identifier of the record that the
index would make of the header, unless that is a constructor, a modifier or
the fallback function. -/
theorem printed_target_iff (kind : Kind) (header : String) (sig : Signature)
    (h : Signature.read kind header = .ok sig) (colored : Bool) (file : String)
    (line : Nat) :
    ∃ rows : List (String × String), (∀ row ∈ rows, row.1 ≠ "target")
      ∧ runSignature colored kind header
        = { exitCode := Outcome.success
            stdout := String.join
              ((rows ++ [("target", printedTarget sig)]).map (tableLine colored)) }
      ∧ (printedTarget sig = ({ kind, file, parts := sig, line } : Record).targetId
        ↔ sig.name ≠ none ∧ kind ≠ .constructor ∧ kind ≠ .modifier) := by
  have htarget : targetText sig = some (printedTarget sig) := by
    refine targetText_eq ?_
    obtain ⟨-, callable, rfl, -⟩ | ⟨-, -, hname⟩ := Signature.shape_of_read h
    · exact .inl (Option.some_ne_none _)
    · exact .inr hname
  refine ⟨[("kind", kind.name), ("signature", sig.render)]
    ++ (sig.name.map (("name", ·))).toList
    ++ (sig.valueType.map (("type", ·))).toList
    ++ (sig.paramTypes.map fun types =>
      ("params", "(" ++ ",".intercalate types ++ ")")).toList, ?_, ?_,
    printedTarget_eq_targetId_iff h file line⟩
  · intro row hrow
    simp only [List.mem_append, List.mem_cons, List.not_mem_nil, or_false,
      Option.mem_toList, Option.map_eq_some_iff] at hrow
    obtain (((rfl | rfl) | ⟨_, -, rfl⟩) | ⟨_, -, rfl⟩) | ⟨_, -, rfl⟩ := hrow <;> simp
  · simp only [runSignature, h, signatureRows, htarget]
    rfl

/-- The parts of a header with one parameter. -/
def guardParts : Signature :=
  .callable ⟨some "guard", [⟨"address", none, some "who"⟩], [], none⟩

/-- The same header prints the same target for a function and for a modifier,
which is the identifier of the function and not that of the modifier. -/
theorem guard_printed :
    (∃ rows, runSignature false .function "guard(address who)"
        = { exitCode := Outcome.success
            stdout := String.join
              ((rows ++ [("target", "guard(address)")]).map (tableLine false)) })
      ∧ (∃ rows, runSignature false .modifier "guard(address who)"
        = { exitCode := Outcome.success
            stdout := String.join
              ((rows ++ [("target", "guard(address)")]).map (tableLine false)) })
      ∧ "guard(address)"
        = ({ kind := .function, file := "A.sol", parts := guardParts, line := 1 } :
          Record).targetId
      ∧ "guard(address)"
        ≠ ({ kind := .modifier, file := "A.sol", parts := guardParts, line := 1 } :
          Record).targetId := by
  have hfunction : Signature.read .function "guard(address who)" = .ok guardParts := by
    decide +kernel
  have hmodifier : Signature.read .modifier "guard(address who)" = .ok guardParts := by
    decide +kernel
  have hprinted : printedTarget guardParts = "guard(address)" := by decide +kernel
  obtain ⟨frows, -, hfrun, hfiff⟩ :=
    printed_target_iff .function _ guardParts hfunction false "A.sol" 1
  obtain ⟨mrows, -, hmrun, hmiff⟩ :=
    printed_target_iff .modifier _ guardParts hmodifier false "A.sol" 1
  rw [hprinted] at hfrun hmrun hfiff hmiff
  exact ⟨⟨frows, hfrun⟩, ⟨mrows, hmrun⟩,
    hfiff.2 ⟨Option.some_ne_none _, by decide, by decide⟩, fun heq => (hmiff.1 heq).2.2 rfl⟩

end CommandLine

end ContractDocs
