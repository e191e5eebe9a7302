/-
What a walk comes across in a tree without links.

`finds` lists it by the names that lead there: every file, and every directory
that cannot be opened, with the reason. This is what a walk meets
(`Linkless.walk_eq`), and what it holds is said by looking names up in the
tree (`Linkless.mem_finds_iff`). A directory that is hidden, or that cannot be
opened, hides all that is below it; a file that is hidden itself counts.
-/
import ContractDocs.Index.Discovery
import ContractDocs.Proofs.Files.Lookup
import Mathlib.Data.List.Nodup

namespace ContractDocs.Entry

open ContractDocs.Path Text

-- ================================================= trees without links

/-- A file, or a directory without links in or below it. Its names are
different from one another, and each is one a directory can hold. -/
inductive Linkless : Entry → Prop where
  | file (bytes : ByteArray) (tree : Option Tree) : Linkless (.file bytes tree)
  | locked (isDir : Bool) : Linkless (.locked isDir)
  | dir {entries : Entries} : (entries.map Prod.fst).Nodup →
      (∀ e ∈ entries, IsNormalName e.1) → (∀ e ∈ entries, Linkless e.2) →
      Linkless (.dir entries)

variable {hidden : Bool} {entries : Entries} {entry found : Entry} {path name : RawText}
  {names rest : List RawText} {result : Option FileError}

/-- With different names, looking a name up finds the entry it stands for. -/
theorem lookup_eq_some_iff (hnodup : (entries.map Prod.fst).Nodup) :
    entries.lookup name = some entry ↔ (name, entry) ∈ entries := by
  induction entries with
  | nil => simp
  | cons e entries ih =>
      obtain ⟨other, old⟩ := e
      rw [List.map_cons, List.nodup_cons] at hnodup
      rw [List.lookup_cons, List.mem_cons, ← ih hnodup.2]
      by_cases hname : name = other
      · subst hname
        have hnone : entries.lookup name ≠ some entry := fun hsome =>
          hnodup.1 (List.mem_map.2 ⟨(name, entry), (ih hnodup.2).1 hsome, rfl⟩)
        simp [hnone, eq_comm]
      · simp [hname, beq_eq_false_iff_ne.2 hname]

theorem isDir_of_get? (h : entry.get? (name :: rest) = some found) : entry.isDir = true := by
  obtain ⟨inner, rfl⟩ := eq_dir_of_get? h
  rfl

/-- The first name leads to an entry of the directory, the others go on from
there. -/
theorem get?_cons_eq_some_iff (hnodup : (entries.map Prod.fst).Nodup) :
    (Entry.dir entries).get? (name :: rest) = some found
      ↔ ∃ entry, (name, entry) ∈ entries ∧ entry.get? rest = some found := by
  rw [get?, Option.bind_eq_some_iff]
  exact exists_congr fun entry => and_congr_left' (lookup_eq_some_iff hnodup)

/-- What is below an entry of a tree without links has none either, and the
names that lead there are ones a directory can hold. -/
theorem Linkless.of_get? {names : List RawText} (h : entry.Linkless)
    (hfound : entry.get? names = some found) :
    found.Linkless ∧ ∀ name ∈ names, IsNormalName name := by
  induction names generalizing entry with
  | nil =>
      cases hfound
      exact ⟨h, nofun⟩
  | cons name names ih =>
      obtain ⟨entries, rfl⟩ := eq_dir_of_get? hfound
      cases h with
      | dir hnodup hnames hentries =>
          obtain ⟨entry, hmem, hget⟩ := (get?_cons_eq_some_iff hnodup).1 hfound
          obtain ⟨hlinkless, hbelow⟩ := ih (hentries (name, entry) hmem) hget
          exact ⟨hlinkless, List.forall_mem_cons.2 ⟨hnames (name, entry) hmem, hbelow⟩⟩

-- ================================================ what is come across

/-- Why the directory at a path cannot be opened. -/
def refusal? (path : RawText) (entry : Entry) : Option FileError :=
  if Files.isTooLong path then some .nameTooLong
  else if entry.isLocked then some .denied
  else none

/-- How a walk ends at an entry: with a file, or with a directory that it
cannot open. -/
def outcome? (path : RawText) (entry : Entry) : Option (Option FileError) :=
  if entry.isFile then some none
  else if entry.isDir then (refusal? path entry).map some
  else none

theorem isDir_of_isFile (h : entry.isFile = true) : entry.isDir = false := by
  cases entry with
  | file bytes tree => rfl
  | locked isDir => simpa [isFile, Entry.isDir] using h
  | dir entries => cases h
  | link target => cases h

/-- A walk ends with a file at files. -/
theorem outcome?_eq_none_iff : outcome? path entry = some none ↔ entry.isFile = true := by
  rw [outcome?]
  cases entry.isFile with
  | true => simp
  | false => cases entry.isDir <;> simp

/-- It ends with a directory at those that cannot be opened. -/
theorem outcome?_eq_some_iff {cause : FileError} :
    outcome? path entry = some (some cause)
      ↔ entry.isDir = true ∧ refusal? path entry = some cause := by
  rw [outcome?]
  cases hfile : entry.isFile with
  | true => simp [isDir_of_isFile hfile]
  | false => cases entry.isDir <;> simp

mutual

/-- The names that lead from the entry at a path to where a walk ends, at or
below it. A directory whose name starts with a dot is passed over, unless
`hidden` is set. -/
def finds (hidden : Bool) (path : RawText) : Entry → List (List RawText × Option FileError)
  | .dir entries =>
    if Files.isTooLong path then [([], some .nameTooLong)] else findsAmong hidden path entries
  | entry => ((outcome? path entry).map ([], ·)).toList

/-- The names that lead from the directory at a path to where a walk ends,
among and below some of its entries. -/
def findsAmong (hidden : Bool) (path : RawText) :
    Entries → List (List RawText × Option FileError)
  | [] => []
  | (name, entry) :: rest =>
    (if !hidden && isHiddenName name && entry.isDir then []
      else (entry.finds hidden (child path name)).map fun find => (name :: find.1, find.2))
      ++ findsAmong hidden path rest

end

theorem mem_findsAmong_iff :
    (names, result) ∈ findsAmong hidden path entries
      ↔ ∃ name entry rest, (name, entry) ∈ entries ∧ names = name :: rest
        ∧ (hidden = true ∨ isHiddenName name = false ∨ entry.isDir = false)
        ∧ (rest, result) ∈ entry.finds hidden (child path name) := by
  induction entries with
  | nil => simp [findsAmong]
  | cons e entries ih =>
      obtain ⟨name, entry⟩ := e
      have hhead : (names, result) ∈ (if !hidden && isHiddenName name && entry.isDir then []
          else (entry.finds hidden (child path name)).map fun find => (name :: find.1, find.2))
          ↔ ∃ rest, names = name :: rest
            ∧ (hidden = true ∨ isHiddenName name = false ∨ entry.isDir = false)
            ∧ (rest, result) ∈ entry.finds hidden (child path name) := by
        cases hidden <;> cases isHiddenName name <;> cases entry.isDir <;>
          simp [and_comm, eq_comm]
      rw [findsAmong, List.mem_append, ih, hhead]
      constructor
      · rintro (⟨rest, hnames⟩ | ⟨name', entry', rest, hmem, hnames⟩)
        · exact ⟨name, entry, rest, List.mem_cons_self .., hnames⟩
        · exact ⟨name', entry', rest, List.mem_cons_of_mem _ hmem, hnames⟩
      · rintro ⟨name', entry', rest, hmem, hnames⟩
        rcases List.mem_cons.1 hmem with heq | hmem
        · cases heq
          exact .inl ⟨rest, hnames⟩
        · exact .inr ⟨name', entry', rest, hmem, hnames⟩

-- ============================================================ the way

/-- No directory has a name that starts with a dot, or hidden ones are looked
into. -/
def Visible (hidden : Bool) (dirs : List RawText) : Prop :=
  hidden = true ∨ ∀ dir ∈ dirs, dir.bytes.head? ≠ some dot

instance (hidden : Bool) (dirs : List RawText) : Decidable (Visible hidden dirs) :=
  inferInstanceAs (Decidable (_ ∨ _))

/-- Every directory on the way from a path has a path that is not too long. -/
def InReach (path : RawText) (names : List RawText) : Prop :=
  ∀ k < names.length, ((names.take k).foldl child path).bytes.length ≤ Files.longestPath

instance (path : RawText) (names : List RawText) : Decidable (InReach path names) :=
  inferInstanceAs (Decidable (∀ k < names.length, _))

/-- The directories among the names that lead to an entry. -/
def dirsTo (found : Entry) (names : List RawText) : List RawText :=
  if found.isDir then names else names.dropLast

theorem isTooLong_eq_false_iff :
    Files.isTooLong path = false ↔ path.bytes.length ≤ Files.longestPath := by
  simp [Files.isTooLong]

/-- What is shown of a name starts with a dot when the name does. -/
theorem isHiddenName_eq_false_iff :
    isHiddenName name = false ↔ name.bytes.head? ≠ some dot := by
  have hdot := @head?_lossy_eq_some_iff name.bytes '.' (by decide)
  rw [isHiddenName, decide_eq_false_iff_not, RawText.toList_text, hdot]
  rfl

theorem inReach_cons_iff :
    InReach path (name :: rest)
      ↔ path.bytes.length ≤ Files.longestPath ∧ InReach (child path name) rest := by
  rw [InReach, List.length_cons, Nat.forall_lt_succ_left]
  rfl

theorem visible_cons_iff (hfound : entry.get? rest = some found) :
    Visible hidden (found.dirsTo (name :: rest))
      ↔ (hidden = true ∨ isHiddenName name = false ∨ entry.isDir = false)
        ∧ Visible hidden (found.dirsTo rest) := by
  cases rest with
  | nil =>
      obtain rfl := Option.some.inj hfound
      rw [isHiddenName_eq_false_iff]
      cases hdir : entry.isDir <;> simp [Visible, dirsTo, hdir]
  | cons next rest =>
      rw [isHiddenName_eq_false_iff, isDir_of_get? hfound]
      cases hdir : found.isDir <;> simp only [Visible, dirsTo, hdir, if_true, if_false,
        List.dropLast_cons_cons, List.forall_mem_cons, Bool.false_eq_true, Bool.true_eq_false,
        or_false, or_and_left]

theorem outcome?_dir :
    outcome? path (.dir entries)
      = if Files.isTooLong path then some (some .nameTooLong) else none := by
  rw [outcome?, refusal?]
  cases Files.isTooLong path <;> rfl

theorem finds_leaf (hleaf : ∀ inner, entry ≠ .dir inner) :
    entry.finds hidden path = ((outcome? path entry).map ([], ·)).toList := by
  cases entry with
  | dir inner => exact absurd rfl (hleaf inner)
  | file bytes tree => rw [finds]; exact hleaf
  | link target => rw [finds]; exact hleaf
  | locked isDir => rw [finds]; exact hleaf

/-- A walk goes no further than an entry with nothing below it. -/
theorem mem_finds_leaf_iff (hleaf : ∀ inner, entry ≠ .dir inner) :
    (names, result) ∈ entry.finds hidden path
      ↔ ∃ found, entry.get? names = some found
        ∧ found.outcome? (names.foldl child path) = some result
        ∧ Visible hidden (found.dirsTo names) ∧ InReach path names := by
  rw [finds_leaf hleaf, Option.mem_toList, Option.map_eq_some_iff]
  cases names with
  | nil =>
      constructor
      · rintro ⟨result', houtcome, heq⟩
        cases heq
        exact ⟨entry, rfl, houtcome, by simp [Visible, dirsTo], by simp [InReach]⟩
      · rintro ⟨found, hget, houtcome, -⟩
        cases hget
        exact ⟨result, houtcome, rfl⟩
  | cons name names =>
      constructor
      · rintro ⟨result', -, heq⟩
        cases heq
      · rintro ⟨found, hget, -⟩
        obtain ⟨inner, hdir⟩ := eq_dir_of_get? hget
        exact absurd hdir (hleaf inner)

/-- A walk ends at the files, and at the directories that cannot be opened,
behind directories that are visible and in reach. -/
theorem Linkless.mem_finds_iff (h : entry.Linkless) :
    ∀ path names, (names, result) ∈ entry.finds hidden path
      ↔ ∃ found, entry.get? names = some found
        ∧ found.outcome? (names.foldl child path) = some result
        ∧ Visible hidden (found.dirsTo names) ∧ InReach path names := by
  induction h with
  | file bytes tree => exact fun path names => mem_finds_leaf_iff nofun
  | locked isDir => exact fun path names => mem_finds_leaf_iff nofun
  | @dir entries hnodup hnames hentries ih =>
      intro path names
      rw [finds]
      cases names with
      | nil =>
          have hnone : ([], result) ∉ findsAmong hidden path entries := fun hmem => by
            obtain ⟨_, _, _, _, heq, _⟩ := mem_findsAmong_iff.1 hmem
            cases heq
          have hroot : Visible hidden (dirsTo (.dir entries) []) ∧ InReach path [] :=
            ⟨by simp [Visible, dirsTo], by simp [InReach]⟩
          simp only [get?, Option.some.injEq, exists_eq_left', List.foldl_nil, outcome?_dir, hroot,
            and_true]
          cases Files.isTooLong path with
          | true => simp [eq_comm]
          | false => simp [hnone]
      | cons name rest =>
          rw [inReach_cons_iff, ← isTooLong_eq_false_iff]
          cases Files.isTooLong path with
          | true => simp
          | false =>
              rw [if_neg Bool.false_ne_true, mem_findsAmong_iff]
              constructor
              · rintro ⟨name', entry, rest', hmem, heq, hname, hrest⟩
                cases heq
                obtain ⟨found, hget, houtcome, hvisible, hreach⟩ :=
                  (ih (name, entry) hmem _ _).1 hrest
                exact ⟨found, (get?_cons_eq_some_iff hnodup).2 ⟨entry, hmem, hget⟩, houtcome,
                  (visible_cons_iff hget).2 ⟨hname, hvisible⟩, rfl, hreach⟩
              · rintro ⟨found, hget, houtcome, hvisible, -, hreach⟩
                obtain ⟨entry, hmem, hget⟩ := (get?_cons_eq_some_iff hnodup).1 hget
                obtain ⟨hname, hrest⟩ := (visible_cons_iff hget).1 hvisible
                exact ⟨name, entry, rest, hmem, rfl, hname,
                  (ih (name, entry) hmem _ _).2 ⟨found, hget, houtcome, hrest, hreach⟩⟩

/-- Ways through different entries differ in their first name. -/
theorem nodup_findsAmong (hnodup : (entries.map Prod.fst).Nodup)
    (h : ∀ e ∈ entries, ((e.2.finds hidden (child path e.1)).map Prod.fst).Nodup) :
    ((findsAmong hidden path entries).map Prod.fst).Nodup := by
  induction entries with
  | nil => simp [findsAmong]
  | cons e entries ih =>
      obtain ⟨name, entry⟩ := e
      rw [List.map_cons, List.nodup_cons] at hnodup
      rw [List.forall_mem_cons] at h
      rw [findsAmong, List.map_append, List.nodup_append]
      refine ⟨?_, ih hnodup.2 h.2, ?_⟩
      · split
        · exact List.nodup_nil
        · have hcons := h.1.map (f := (name :: ·)) fun _ _ => List.tail_eq_of_cons_eq
          rw [List.map_map] at hcons ⊢
          exact hcons
      · rintro a ha b hb rfl
        -- both begin with the name of their entry, and no name is there twice
        obtain ⟨⟨names, result⟩, hmem, rfl⟩ := List.mem_map.1 hb
        obtain ⟨other, entry', rest, hother, hnames, -⟩ := mem_findsAmong_iff.1 hmem
        obtain rfl : names = other :: rest := hnames
        split at ha
        · cases ha
        · rw [List.map_map] at ha
          obtain ⟨find, -, heq⟩ := List.mem_map.1 ha
          cases heq
          exact hnodup.1 (List.mem_map.2 ⟨(name, entry'), hother, rfl⟩)

/-- No way is taken twice. -/
theorem Linkless.nodup_finds (h : entry.Linkless) (hidden : Bool) :
    ∀ path, ((entry.finds hidden path).map Prod.fst).Nodup := by
  have hleaf : ∀ {entry : Entry}, (∀ inner, entry ≠ .dir inner) → ∀ path,
      ((entry.finds hidden path).map Prod.fst).Nodup := fun hleaf path => by
    rw [finds_leaf hleaf]
    cases outcome? path _ <;> simp
  induction h with
  | file bytes tree => exact hleaf nofun
  | locked isDir => exact hleaf nofun
  | @dir entries hnodup hnames hentries ih =>
      intro path
      rw [finds]
      split
      · exact List.nodup_singleton _
      · exact nodup_findsAmong hnodup fun e hmem => ih e hmem (child path e.1)

-- ============================================================ the walk

/-- What the end of a walk looks like from a root. -/
def sightingFrom (root : RawText) (find : List RawText × Option FileError) : Sighting :=
  match find.2 with
  | none => .file (find.1.foldl child root)
  | some cause => .unreadable (find.1.foldl child root) cause

/-- A walk comes across these ends, one after the other. -/
theorem Linkless.walk_eq (h : entry.Linkless) (files : Files) (hidden : Bool) (links : Nat) :
    ∀ {entries : Entries}, entry = .dir entries → ∀ (dir : Visited) (trail : List Visited),
      files.walk hidden links dir trail entries
        = (findsAmong hidden dir.path entries).map (sightingFrom dir.path) := by
  induction h with
  | file bytes tree => exact nofun
  | locked isDir => exact nofun
  | @dir entries hnodup hnames hentries ih =>
      intro entries' heq dir trail
      cases heq
      clear hnodup hnames
      induction entries with
      | nil => rw [Files.walk, findsAmong, List.map_nil]
      | cons e entries ihRest =>
          obtain ⟨name, entry⟩ := e
          rw [List.forall_mem_cons] at hentries ih
          rw [Files.walk.eq_def, findsAmong, List.map_append]
          dsimp only
          rw [ihRest hentries.2 ih.2]
          congr 1
          cases hentries.1 with
          | file bytes tree => simp [finds, outcome?, isFile, isDir, sightingFrom]
          | locked isDir =>
              cases isDir with
              | false => simp [finds, outcome?, isFile, Entry.isDir, sightingFrom]
              | true =>
                  simp only [finds, outcome?, refusal?, isFile, Entry.isDir, isLocked,
                    Bool.and_true]
                  split
                  · rfl
                  · cases Files.isTooLong (child dir.path name) <;> rfl
          | @dir inner _ _ _ =>
              simp only [isDir, finds, Bool.and_true]
              split
              · rfl
              · split
                · rfl
                · rw [ih.1 rfl, List.map_map]
                  rfl

end ContractDocs.Entry
