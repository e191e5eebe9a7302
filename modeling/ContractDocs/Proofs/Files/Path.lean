/-
Paths that are extended name by name. Whatever a root looks like, joining a
name to it adds one component at the end (`components_child`), because a
slash at the end of a path counts for nothing. What lies below the root is
therefore the names that were joined (`relative_foldl_child`), and these can be
read off the text again (`eq_of_intercalate_eq`). A `./` that no root takes
away is dropped at the end (`not_here_prefix_dropHere`).

Paths are bytes, and so are names; a name that is shown as text is still one
that a directory can hold (`IsNormalName.isEntryName_text`), though two names
may be shown alike. Joining texts is joining their bytes (`ofText_join`).
-/
import ContractDocs.Files.Basic
import ContractDocs.Proofs.Text.Lossy
import Mathlib.Data.List.Basic
import Mathlib.Tactic.MkIffOfInductiveProp

namespace ContractDocs.Path

open Text

-- ============================================================== names

/-- A name, as text, that a directory can hold. -/
@[mk_iff]
structure IsEntryName (name : String) : Prop where
  nonempty : name ≠ ""
  notHere : name ≠ "."
  notParent : name ≠ ".."
  noSlash : '/' ∉ name.toList

instance (name : String) : Decidable (IsEntryName name) :=
  decidable_of_iff' _ (isEntryName_iff name)

/-- A name, as bytes, that a directory can hold. -/
@[mk_iff]
structure IsNormalName (name : RawText) : Prop where
  nonempty : name.bytes ≠ []
  notHere : name.bytes ≠ [dot]
  notParent : name.bytes ≠ [dot, dot]
  noSlash : slash ∉ name.bytes

instance (name : RawText) : Decidable (IsNormalName name) :=
  decidable_of_iff' _ (isNormalName_iff name)

theorem IsEntryName.isNormalName {name : String} (h : IsEntryName name) : IsNormalName name where
  nonempty := fun heq => h.nonempty (String.toList_inj.1 (utf8_injective heq))
  notHere := fun heq => h.notHere (String.toList_inj.1 (utf8_injective heq))
  notParent := fun heq => h.notParent (String.toList_inj.1 (utf8_injective heq))
  noSlash := fun hmem => by
    obtain ⟨c, hc, hbyte⟩ := List.mem_flatMap.1 hmem
    obtain rfl : c = '/' := eq_of_toUInt8_mem (by decide) hbyte
    exact h.noSlash hc

namespace IsNormalName

variable {name : RawText}

/-- What a name is shown as is a name. -/
theorem isEntryName_text (h : IsNormalName name) : IsEntryName name.text where
  nonempty := fun heq =>
    h.nonempty (congrArg RawText.bytes (RawText.eq_ofText_of_text heq (by decide)))
  notHere := fun heq =>
    h.notHere (congrArg RawText.bytes (RawText.eq_ofText_of_text heq (by decide)))
  notParent := fun heq =>
    h.notParent (congrArg RawText.bytes (RawText.eq_ofText_of_text heq (by decide)))
  noSlash := fun hmem => h.noSlash <| by
    rw [RawText.toList_text] at hmem
    exact toUInt8_mem_of_mem_lossy (by decide) hmem

theorem head?_ne_slash (h : IsNormalName name) : name.bytes.head? ≠ some slash := fun hhead =>
  h.noSlash (List.mem_of_head? hhead)

theorem ofSegment? (h : IsNormalName name) :
    Component.ofSegment? name.bytes = some (.name name.bytes) := by
  rw [Component.ofSegment?, if_neg (by simp [h.nonempty, h.notHere]), if_neg h.notParent]

end IsNormalName

-- ============================================================ joining

/-- The components are those of the first segment and those of the others. -/
theorem components_eq {path first : Bytes} {rest : List Bytes}
    (h : path.splitOn slash = first :: rest) :
    components path
      = (if first = [] then (if rest = [] then [] else [.root])
        else if first = [dot] then [.here] else (Component.ofSegment? first).toList)
        ++ rest.filterMap Component.ofSegment? := by
  rw [components, h]
  dsimp only
  split
  · split
    · next hrest => rw [hrest, List.filterMap_nil, List.nil_append]
    · rfl
  · split <;> rfl

variable {lead last : Bytes}

theorem splitOn_slash (hlast : slash ∉ last) :
    (lead ++ slash :: last).splitOn slash = lead.splitOn slash ++ [last] := by
  rw [List.splitOn_append_cons_self, List.splitOn_eq_singleton hlast]

/-- What follows the last slash adds its own component. -/
theorem components_slash (hlast : slash ∉ last) :
    components (lead ++ slash :: last)
      = components (lead ++ [slash]) ++ (Component.ofSegment? last).toList := by
  obtain ⟨first, rest, hlead⟩ := List.exists_cons_of_ne_nil (List.splitOn_ne_nil slash lead)
  have hnone : Component.ofSegment? [] = none := by simp [Component.ofSegment?]
  rw [components_eq (by rw [splitOn_slash hlast, hlead, List.cons_append]),
    components_eq (by rw [splitOn_slash List.not_mem_nil, hlead, List.cons_append])]
  simp only [List.append_eq_nil_iff, List.cons_ne_nil, and_false, if_false,
    List.filterMap_append, List.filterMap_cons, List.filterMap_nil, hnone, List.append_nil,
    List.append_assoc]
  cases Component.ofSegment? last <;> rfl

/-- A slash at the end counts for nothing. -/
theorem components_concat_slash (hlead : lead ≠ []) :
    components (lead ++ [slash]) = components lead := by
  obtain ⟨first, rest, hsplit⟩ := List.exists_cons_of_ne_nil (List.splitOn_ne_nil slash lead)
  have hrest : first = [] → rest ≠ [] := by
    rintro rfl rfl
    have hjoin : [slash].intercalate (lead.splitOn slash) = lead := List.intercalate_splitOn slash
    rw [hsplit] at hjoin
    exact hlead hjoin.symm
  rw [components_eq hsplit,
    components_eq (by rw [splitOn_slash List.not_mem_nil, hsplit, List.cons_append])]
  by_cases hfirst : first = []
  · simp [hfirst, hrest hfirst, Component.ofSegment?]
  · simp [hfirst, Component.ofSegment?]

variable {name : RawText}

/-- A name is joined behind a slash, unless there is nothing before it. -/
theorem child_cases (path : RawText) (h : IsNormalName name) :
    (path.bytes = [] ∧ (child path name).bytes = name.bytes)
      ∨ ∃ lead, (child path name).bytes = lead ++ slash :: name.bytes
        ∧ components (lead ++ [slash]) = components path.bytes := by
  rw [child, extend, if_neg h.head?_ne_slash]
  split
  · next hpath =>
      rcases hpath with hnil | hslash
      · exact .inl ⟨hnil, by rw [hnil, List.nil_append]⟩
      · obtain ⟨lead, hlead⟩ := List.getLast?_eq_some_iff.1 hslash
        exact .inr ⟨lead, by simp [hlead], by rw [hlead]⟩
  · next hpath =>
      exact .inr ⟨path.bytes, rfl, components_concat_slash fun hnil => hpath (.inl hnil)⟩

/-- Joining a name adds a component. -/
theorem components_child (path : RawText) (h : IsNormalName name) :
    components (child path name).bytes = components path.bytes ++ [.name name.bytes] := by
  have hname : (Component.ofSegment? name.bytes).toList = [.name name.bytes] := by
    rw [h.ofSegment?, Option.toList_some]
  rcases child_cases path h with ⟨hpath, hjoin⟩ | ⟨lead, hjoin, hlead⟩
  · rw [hjoin, hpath, components_eq (List.splitOn_eq_singleton h.noSlash), if_neg h.nonempty,
      if_neg h.notHere, hname]
    rfl
  · rw [hjoin, components_slash h.noSlash, hlead, hname]

/-- A name that is joined is the last segment. Those before it are those of the
path, up to a slash at its end. -/
theorem segments_child (path : RawText) (h : IsNormalName name) :
    ∃ front tail, (tail = [] ∨ tail = [("" : RawText)])
      ∧ Files.segments path = front ++ tail
      ∧ Files.segments (child path name) = front ++ [name] := by
  simp only [Files.segments]
  rw [child, extend, if_neg h.head?_ne_slash]
  split
  · next hpath =>
      rcases hpath with hnil | hslash
      · refine ⟨[], [""], .inr rfl, by rw [hnil]; rfl, ?_⟩
        rw [hnil, List.nil_append, List.splitOn_eq_singleton h.noSlash]
        rfl
      · obtain ⟨lead, hlead⟩ := List.getLast?_eq_some_iff.1 hslash
        refine ⟨(lead.splitOn slash).map RawText.mk, [""], .inr rfl, ?_, ?_⟩
        · rw [hlead, splitOn_slash List.not_mem_nil, List.map_append]
          rfl
        · rw [hlead, List.append_assoc, List.singleton_append, splitOn_slash h.noSlash,
            List.map_append]
          rfl
  · refine ⟨_, [], .inl rfl, (List.append_nil _).symm, ?_⟩
    rw [splitOn_slash h.noSlash, List.map_append]
    rfl

theorem getLast?_segments_child (path : RawText) (h : IsNormalName name) :
    (Files.segments (child path name)).getLast? = some name := by
  obtain ⟨front, tail, -, -, hchild⟩ := segments_child path h
  rw [hchild, List.getLast?_concat]

/-- A path with a name joined is at least as long as both. -/
theorem length_add_le_child (path : RawText) (h : IsNormalName name) :
    path.bytes.length + name.bytes.length ≤ (child path name).bytes.length := by
  rw [child, extend, if_neg h.head?_ne_slash]
  split
  · simp
  · rw [List.length_append, List.length_cons]
    omega

theorem length_le_foldl_child {names : List RawText}
    (h : ∀ name ∈ names, IsNormalName name) (path : RawText) :
    path.bytes.length ≤ (names.foldl child path).bytes.length := by
  induction names generalizing path with
  | nil => exact Nat.le_refl _
  | cons name names ih =>
      rw [List.forall_mem_cons] at h
      have hjoined := length_add_le_child path h.1
      have hrest := ih h.2 (child path name)
      rw [List.foldl_cons]
      omega

-- ======================================================== joined texts

theorem head?_utf8_eq_slash_iff (chars : List Char) :
    (utf8 chars).head? = some slash ↔ chars.head? = some '/' := by
  have hlossy := @head?_lossy_eq_some_iff (utf8 chars) '/' (by decide)
  rw [lossy_utf8] at hlossy
  exact hlossy.symm

theorem getLast?_utf8_eq_slash_iff (chars : List Char) :
    (utf8 chars).getLast? = some slash ↔ chars.getLast? = some '/' := by
  rcases List.eq_nil_or_concat' chars with rfl | ⟨front, c, rfl⟩
  · simp
  · rw [utf8_append, List.getLast?_append_of_ne_nil _ (by simp), List.getLast?_concat,
      Option.some.injEq]
    constructor
    · intro h
      refine eq_of_toUInt8_mem (c := '/') (by decide) ?_
      have hmem := List.mem_of_getLast? h
      rwa [utf8_cons, utf8_nil, List.append_nil] at hmem
    · rintro rfl
      rfl

/-- Joining texts is joining their bytes. -/
theorem ofText_join (path more : String) :
    RawText.ofText (join path more) = child path more := by
  have hnil : utf8 path.toList = [] ↔ path.toList = [] :=
    ⟨fun h => utf8_injective h, fun h => by rw [h]; rfl⟩
  rw [RawText.ofText, join, child, String.toList_ofList, RawText.bytes_ofText,
    RawText.bytes_ofText, extend, extend]
  simp only [head?_utf8_eq_slash_iff, getLast?_utf8_eq_slash_iff, hnil]
  split
  · rfl
  · split
    · rw [utf8_append]
    · rw [utf8_append]
      rfl

theorem ofText_foldl_join (names : List String) (root : String) :
    RawText.ofText (names.foldl join root) = (names.map RawText.ofText).foldl child root := by
  induction names generalizing root with
  | nil => rfl
  | cons name names ih => rw [List.foldl_cons, ih, ofText_join, List.map_cons, List.foldl_cons]

-- ================================================== several names

variable {names : List String}

/-- The names can be read off a path. -/
theorem splitOn_intercalate_names (h : ∀ name ∈ names, IsEntryName name) (hne : names ≠ []) :
    (['/'].intercalate (names.map String.toList)).splitOn '/' = names.map String.toList := by
  refine List.splitOn_intercalate '/' (fun chars hchars => ?_) (by simpa using hne)
  obtain ⟨name, hname, rfl⟩ := List.mem_map.1 hchars
  exact (h name hname).noSlash

theorem eq_of_intercalate_eq {names' : List String} (h : ∀ name ∈ names, IsEntryName name)
    (h' : ∀ name ∈ names', IsEntryName name) (hne : names ≠ []) (hne' : names' ≠ [])
    (heq : "/".intercalate names = "/".intercalate names') : names = names' := by
  rw [← String.toList_inj, String.toList_intercalate, String.toList_intercalate] at heq
  have hmap : names.map String.toList = names'.map String.toList := by
    rw [← splitOn_intercalate_names h hne, ← splitOn_intercalate_names h' hne']
    exact congrArg (List.splitOn '/') heq
  exact (List.map_inj_right fun _ _ => String.toList_inj.1).1 hmap

/-- A path that starts with a name does not start with `./`. -/
theorem dropHere_intercalate (h : ∀ name ∈ names, IsEntryName name) :
    dropHere (['/'].intercalate (names.map String.toList))
      = ['/'].intercalate (names.map String.toList) := by
  cases names with
  | nil => rfl
  | cons name names =>
      have hsplit := splitOn_intercalate_names h (List.cons_ne_nil name names)
      generalize ['/'].intercalate ((name :: names).map String.toList) = path at hsplit ⊢
      rw [dropHere.eq_def]
      split
      · next rest =>
          -- the first name would be `.`
          have hhere : ('.' :: '/' :: rest).splitOn '/' = ['.'] :: rest.splitOn '/' :=
            List.splitOn_append_cons_self ['.'] rest
          rw [hhere, List.map_cons] at hsplit
          exact absurd (String.toList_inj.1 (List.cons.inj hsplit).1.symm)
            (h name (List.mem_cons_self ..)).notHere
      · rfl

theorem components_foldl_child {names : List RawText} (h : ∀ name ∈ names, IsNormalName name)
    (root : RawText) :
    components (names.foldl child root).bytes
      = components root.bytes ++ names.map fun name => .name name.bytes := by
  induction names generalizing root with
  | nil => simp
  | cons name names ih =>
      rw [List.forall_mem_cons] at h
      rw [List.foldl_cons, ih h.2, components_child _ h.1, List.append_assoc]
      rfl

/-- As seen from a root, a path below it is the names that lead there. -/
theorem relative_foldl_child {names : List RawText} (h : ∀ name ∈ names, IsNormalName name)
    (root : RawText) :
    relative root (names.foldl child root) = "/".intercalate (names.map RawText.text) := by
  have hbelow : below (components root.bytes) (components (names.foldl child root).bytes)
      = names.map fun name => .name name.bytes := by
    rw [components_foldl_child h, below, if_pos (by simp), List.drop_left]
  have hwrite : write (names.map fun name => .name name.bytes)
      = ['/'].intercalate ((names.map RawText.text).map String.toList) := by
    rw [write, List.map_map, List.map_map]
    refine congrArg _ (List.map_congr_left fun name _ => ?_)
    exact name.toList_text.symm
  have hentries : ∀ name ∈ names.map RawText.text, IsEntryName name :=
    List.forall_mem_map.2 fun name hname => (h name hname).isEntryName_text
  rw [relative, hbelow, hwrite, dropHere_intercalate hentries, ← String.toList_inj,
    String.toList_ofList, String.toList_intercalate]
  rfl

/-- No `./` is left at the start. -/
theorem not_here_prefix_dropHere (path : List Char) :
    ¬ ['.', '/'] <+: dropHere path := by
  fun_induction dropHere path with
  | case1 rest ih => exact ih
  | case2 path hpath =>
      rintro ⟨rest, rfl⟩
      exact hpath rest rfl

/-- Joined to a root, however the root is written, and seen from it again,
names stay as they are. What a path is seen as never starts with `./`, whether
it lies below the root or not. -/
theorem relative_inverts_join :
    (∀ (root : String) (names : List String), (∀ name ∈ names, IsEntryName name) →
        relative root (names.foldl join root : String) = "/".intercalate names)
      ∧ ∀ root path : RawText, ¬ ['.', '/'] <+: (relative root path).toList := by
  refine ⟨fun root names h => ?_, fun root path => ?_⟩
  · have hnames : ∀ name ∈ names.map RawText.ofText, IsNormalName name :=
      List.forall_mem_map.2 fun name hname => (h name hname).isNormalName
    rw [ofText_foldl_join, relative_foldl_child hnames, List.map_map]
    simp [Function.comp_def]
  · rw [relative, String.toList_ofList]
    exact not_here_prefix_dropHere _

/-- Neither the `..` nor the slashes and the `.` at the end of the root are in
the way. -/
theorem dottedRoot_inverted :
    (∀ name ∈ ["token", "Token.sol"], IsEntryName name)
      ∧ relative "./docs/../a//." (["token", "Token.sol"].foldl join "./docs/../a//." : String)
        = "token/Token.sol" := by
  have h : ∀ name ∈ ["token", "Token.sol"], IsEntryName name := by decide
  exact ⟨h, (relative_inverts_join.1 "./docs/../a//." _ h).trans (by decide)⟩

end ContractDocs.Path
