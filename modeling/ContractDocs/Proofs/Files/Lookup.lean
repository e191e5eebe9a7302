/-
Where paths lead. The segments of a path are taken one after the other, and
in a directory that may be opened each kind has its step: nothing between two
slashes and a `.` stay where they are (`follow_empty`, `follow_here`), a `..`
goes up (`follow_parent`) and a name goes down (`follow_name`).

Segments that come behind others go on from where those lead, whatever links
there were on the way (`follow_append_cases`). So what names lead to in the
tree is found behind the path of a directory (`lookup_foldl_child`). And
however many `./` stand in front of a path, it leads to the same place
(`lookup_heres`). Both are up to the length that paths may have.
-/
import ContractDocs.Proofs.Accepted
import ContractDocs.Proofs.Files.Path

namespace ContractDocs

/-- Names lead on from where those before them lead. -/
theorem Entry.get?_append (entry : Entry) (names more : List RawText) :
    entry.get? (names ++ more) = (entry.get? names).bind (·.get? more) := by
  induction names generalizing entry with
  | nil => rfl
  | cons name names ih =>
      cases entry with
      | dir entries =>
          rw [List.cons_append, get?, get?]
          cases entries.lookup name with
          | none => rfl
          | some inner => exact ih inner
      | file bytes tree => rfl
      | link target => rfl
      | locked isDir => rfl

/-- Only a directory has anything below it. -/
theorem Entry.eq_dir_of_get? {entry found : Entry} {name : RawText} {names : List RawText}
    (h : entry.get? (name :: names) = some found) : ∃ inner, entry = .dir inner := by
  cases entry with
  | dir inner => exact ⟨inner, rfl⟩
  | file bytes tree => cases h
  | link target => cases h
  | locked isDir => cases h

namespace Files

open ContractDocs.Path

variable {files : Files} {links : Nat} {place : Location} {entries : Entries}
  {rest : List RawText}

-- ========================================================== one segment

@[simp] theorem follow_nil : files.follow links place [] = .ok place := by
  rw [follow]

/-- A directory that may be opened is gone through. -/
theorem follow_cons (hplace : files.entry? place = some (.dir entries)) (segment : RawText) :
    files.follow links place (segment :: rest)
      = if segment = "" ∨ segment = "." then files.follow links place rest
        else if segment = ".." then files.follow links place.parent rest
        else if longestName < segment.bytes.length then .error .nameTooLong
        else match files.entry? (place.child segment) with
          | none => .error .missing
          | some (.link target) =>
            match links with
            | 0 => .error .tooManyLinks
            | left + 1 => files.follow left (startOf place target) (segments target ++ rest)
          | some _ => files.follow links (place.child segment) rest := by
  have hdir : files.isDirAt place = true := by rw [isDirAt, hplace]; rfl
  have hopen : files.isLockedAt place = false := by rw [isLockedAt, hplace]; rfl
  rw [follow.eq_def]
  simp only [hdir, hopen, Bool.not_true, Bool.false_eq_true, if_false]
  by_cases hempty : segment = ""
  · simp only [hempty, true_or, if_true]
  · exact (if_neg hempty).trans (if_congr (or_iff_right hempty) rfl rfl).symm

theorem follow_empty (hplace : files.entry? place = some (.dir entries)) :
    files.follow links place ("" :: rest) = files.follow links place rest := by
  rw [follow_cons hplace, if_pos (.inl rfl)]

theorem follow_here (hplace : files.entry? place = some (.dir entries)) :
    files.follow links place ("." :: rest) = files.follow links place rest := by
  rw [follow_cons hplace, if_pos (.inr rfl)]

theorem follow_parent (hplace : files.entry? place = some (.dir entries)) :
    files.follow links place (".." :: rest) = files.follow links place.parent rest := by
  rw [follow_cons hplace, if_neg (by decide), if_pos rfl]

/-- A name leads to the entry it stands for, if that is no link. -/
theorem follow_name {name : RawText} {entry : Entry}
    (hplace : files.entry? place = some (.dir entries)) (hname : IsNormalName name)
    (hlength : name.bytes.length ≤ longestName)
    (hentry : files.entry? (place.child name) = some entry) (hlink : ∀ t, entry ≠ .link t) :
    files.follow links place (name :: rest) = files.follow links (place.child name) rest := by
  have hempty : name ≠ "" := fun heq => hname.nonempty (by rw [heq]; rfl)
  have hhere : name ≠ "." := fun heq => hname.notHere (by rw [heq]; rfl)
  have hparent : name ≠ ".." := fun heq => hname.notParent (by rw [heq]; rfl)
  rw [follow_cons hplace, if_neg (not_or.2 ⟨hempty, hhere⟩), if_neg hparent,
    if_neg (Nat.not_lt.2 hlength), hentry]
  cases entry with
  | link target => exact absurd rfl (hlink target)
  | file bytes tree => rfl
  | dir entries => rfl
  | locked isDir => rfl

-- ========================================================== whole paths

/-- A path leads to an entry if it is written, is not too long, and its
segments lead to the entry's place. -/
theorem lookup_eq_ok_iff {path : RawText} {entry : Entry} :
    files.lookup path = .ok (place, entry)
      ↔ path ≠ "" ∧ path.bytes.length ≤ longestPath
        ∧ files.follow linkLimit (startOf files.workingDir path) (segments path) = .ok place
        ∧ files.entry? place = some entry := by
  constructor
  · intro h
    obtain ⟨place', hresolve, hfound⟩ := bind_eq_ok_iff.1 h
    split at hfound
    · next hentry =>
        cases hfound
        rw [resolve] at hresolve
        split at hresolve
        · cases hresolve
        · next hempty =>
            split at hresolve
            · cases hresolve
            · next hshort =>
                exact ⟨hempty, by simpa [isTooLong] using hshort, hresolve, hentry⟩
    · cases hfound
  · rintro ⟨hempty, hshort, hfollow, hentry⟩
    have hlong : isTooLong path = false := by simpa [isTooLong] using hshort
    refine bind_eq_ok_iff.2 ⟨place, ?_, ?_⟩
    · rw [resolve, if_neg hempty, hlong, if_neg Bool.false_ne_true, hfollow]
    · rw [hentry]
      rfl

/-- What a path leads to stands where it leads. -/
theorem entry?_of_lookup {path : RawText} {entry : Entry}
    (h : files.lookup path = .ok (place, entry)) : files.entry? place = some entry :=
  (lookup_eq_ok_iff.1 h).2.2.2

/-- A path that leads anywhere is not too long. -/
theorem length_le_of_lookup {path : RawText} {entry : Entry}
    (h : files.lookup path = .ok (place, entry)) : path.bytes.length ≤ longestPath :=
  (lookup_eq_ok_iff.1 h).2.1

/-- A dot leads to the working directory. -/
theorem lookup_here (hplace : files.entry? files.workingDir = some (.dir entries)) :
    files.lookup "." = .ok (files.workingDir, .dir entries) := by
  refine lookup_eq_ok_iff.2 ⟨by decide, by decide, ?_, hplace⟩
  rw [show segments "." = [("." : RawText)] by decide +kernel,
    show startOf files.workingDir "." = files.workingDir from rfl, follow_here hplace, follow_nil]

-- ====================================================== names behind a path

/-- Segments lead somewhere, and what comes behind them goes on from there, or
they lead nowhere, whatever comes behind them. -/
theorem follow_append_cases (files : Files) (links : Nat) (place : Location)
    (segs : List RawText) :
    (∃ left mid, ∀ more, files.follow links place (segs ++ more) = files.follow left mid more)
      ∨ ∃ cause, ∀ more, files.follow links place (segs ++ more) = .error cause := by
  fun_induction files.follow links place segs with
  | case1 links place => exact .inl ⟨links, place, fun _ => rfl⟩
  | case2 links place segment rest hdir =>
      exact .inr ⟨.notDirectory, fun more => by rw [List.cons_append, follow, if_pos hdir]⟩
  | case3 links place rest hdir ih =>
      have hstep : ∀ more, files.follow links place (("" : RawText) :: rest ++ more)
          = files.follow links place (rest ++ more) := fun more => by
        rw [List.cons_append, follow, if_neg hdir, if_pos rfl]
      simpa only [hstep] using ih
  | case4 links place segment rest hdir hempty hlocked =>
      exact .inr ⟨.denied, fun more => by
        rw [List.cons_append, follow, if_neg hdir, if_neg hempty, if_pos hlocked]⟩
  | case5 links place rest hdir hlocked hne ih =>
      have hstep : ∀ more, files.follow links place (("." : RawText) :: rest ++ more)
          = files.follow links place (rest ++ more) := fun more => by
        rw [List.cons_append, follow, if_neg hdir, if_neg hne, if_neg hlocked, if_pos rfl]
      simpa only [hstep] using ih
  | case6 links place rest hdir hlocked hempty hhere ih =>
      have hstep : ∀ more, files.follow links place ((".." : RawText) :: rest ++ more)
          = files.follow links place.parent (rest ++ more) := fun more => by
        rw [List.cons_append, follow, if_neg hdir, if_neg hempty, if_neg hlocked, if_neg hhere,
          if_pos rfl]
      simpa only [hstep] using ih
  | case7 links place segment rest hdir hempty hlocked hhere hparent hlong =>
      exact .inr ⟨.nameTooLong, fun more => by
        rw [List.cons_append, follow, if_neg hdir, if_neg hempty, if_neg hlocked, if_neg hhere,
          if_neg hparent, if_pos hlong]⟩
  | case8 links place segment rest hdir hempty hlocked hhere hparent hlong hnone =>
      exact .inr ⟨.missing, fun more => by
        rw [List.cons_append, follow, if_neg hdir, if_neg hempty, if_neg hlocked, if_neg hhere,
          if_neg hparent, if_neg hlong, hnone]⟩
  | case9 place segment rest hdir hempty hlocked hhere hparent hlong target hlink =>
      exact .inr ⟨.tooManyLinks, fun more => by
        rw [List.cons_append, follow, if_neg hdir, if_neg hempty, if_neg hlocked, if_neg hhere,
          if_neg hparent, if_neg hlong, hlink]⟩
  | case10 place segment rest hdir hempty hlocked hhere hparent hlong target hlink left ih =>
      have hstep : ∀ more, files.follow left.succ place (segment :: rest ++ more)
          = files.follow left (startOf place target) (segments target ++ rest ++ more) :=
        fun more => by
          rw [List.cons_append, follow, if_neg hdir, if_neg hempty, if_neg hlocked,
            if_neg hhere, if_neg hparent, if_neg hlong, hlink, List.append_assoc]
      simpa only [hstep] using ih
  | case11 links place segment rest hdir hempty hlocked hhere hparent hlong entry hother hentry
      ih =>
      have hstep : ∀ more, files.follow links place (segment :: rest ++ more)
          = files.follow links (place.child segment) (rest ++ more) := fun more => by
        rw [List.cons_append, follow, if_neg hdir, if_neg hempty, if_neg hlocked, if_neg hhere,
          if_neg hparent, if_neg hlong, hentry]
        cases entry with
        | link target => exact (hother target rfl).elim
        | file bytes tree => rfl
        | dir entries => rfl
        | locked isDir => rfl
      simpa only [hstep] using ih

theorem isAbsolute_child {path name : RawText} (hpath : path ≠ "") (h : IsNormalName name) :
    isAbsolute (child path name) = isAbsolute path := by
  obtain ⟨bytes⟩ := path
  cases bytes with
  | nil => exact absurd rfl hpath
  | cons b bytes =>
      rw [child, extend, if_neg h.head?_ne_slash, isAbsolute, isAbsolute]
      split <;> rfl

/-- Names lead on from a place. -/
theorem entry?_append {entry : Entry} (hplace : files.entry? place = some entry)
    (names : List RawText) : files.entry? (place ++ names) = entry.get? names := by
  rw [Files.entry?] at hplace
  rw [Files.entry?, Entry.get?_append, hplace, Option.bind_some]

theorem entry?_child {name : RawText} (hplace : files.entry? place = some (.dir entries)) :
    files.entry? (place.child name) = entries.lookup name := by
  refine entry?_append hplace [name] |>.trans ?_
  rw [Entry.get?]
  cases entries.lookup name <;> rfl

section

variable {path name : RawText} {entry : Entry} {dir : Location}

/-- A name goes on from the directory that the path leads to. -/
theorem follow_child (hfollow : files.follow links place (segments path) = .ok dir)
    (hdir : files.entry? dir = some (.dir entries)) (hname : IsNormalName name)
    (hlength : name.bytes.length ≤ longestName) (hentry : entries.lookup name = some entry)
    (hlink : ∀ t, entry ≠ .link t) :
    files.follow links place (segments (child path name)) = .ok (dir.child name) := by
  have hthere : files.entry? (dir.child name) = some entry :=
    entry?_child hdir |>.trans hentry
  obtain ⟨front, tail, htail, hpath, hchild⟩ := segments_child path hname
  rw [hpath] at hfollow
  rcases follow_append_cases files links place front with ⟨left, mid, hmore⟩ | ⟨cause, hmore⟩
  · rw [hmore] at hfollow
    obtain rfl : mid = dir := by
      rcases htail with rfl | rfl
      · rw [follow_nil] at hfollow
        exact Except.ok.inj hfollow
      · rw [follow] at hfollow
        split at hfollow
        · cases hfollow
        · rw [if_pos rfl, follow_nil] at hfollow
          exact Except.ok.inj hfollow
    rw [hchild, hmore, follow_name hdir hname hlength hthere hlink, follow_nil]
  · rw [hmore] at hfollow
    cases hfollow

/-- What a directory holds under a name is found behind its path, unless that
is a link or the path gets too long. -/
theorem lookup_child (hpath : files.lookup path = .ok (place, .dir entries))
    (hname : IsNormalName name) (hlength : name.bytes.length ≤ longestName)
    (hentry : entries.lookup name = some entry) (hlink : ∀ t, entry ≠ .link t)
    (hshort : (child path name).bytes.length ≤ longestPath) :
    files.lookup (child path name) = .ok (place.child name, entry) := by
  obtain ⟨hwritten, -, hfollow, hdir⟩ := lookup_eq_ok_iff.1 hpath
  have hstart : startOf files.workingDir (child path name) = startOf files.workingDir path := by
    rw [startOf, startOf, isAbsolute_child hwritten hname]
  have hnonempty : child path name ≠ "" := fun heq => by
    have hbytes : (child path name).bytes.length = 0 := by
      rw [heq]
      rfl
    have hle := length_add_le_child path hname
    have hpos := List.length_pos_of_ne_nil hname.nonempty
    omega
  refine lookup_eq_ok_iff.2 ⟨hnonempty, hshort, ?_, entry?_child hdir |>.trans hentry⟩
  rw [hstart, follow_child hfollow hdir hname hlength hentry hlink]

/-- What names lead to below a directory is found behind its path. -/
theorem lookup_foldl_child {names : List RawText} {found : Entry}
    (hpath : files.lookup path = .ok (place, .dir entries))
    (hnames : ∀ name ∈ names, IsNormalName name ∧ name.bytes.length ≤ longestName)
    (hfound : (Entry.dir entries).get? names = some found) (hlink : ∀ t, found ≠ .link t)
    (hshort : (names.foldl child path).bytes.length ≤ longestPath) :
    files.lookup (names.foldl child path) = .ok (place ++ names, found) := by
  induction names generalizing path place entries with
  | nil =>
      cases hfound
      rw [List.append_nil]
      exact hpath
  | cons name names ih =>
      rw [List.forall_mem_cons] at hnames
      obtain ⟨entry, hentry, hget⟩ := Option.bind_eq_some_iff.1 hfound
      rw [List.foldl_cons] at hshort ⊢
      have hchild : (child path name).bytes.length ≤ longestPath :=
        (length_le_foldl_child (fun n hn => (hnames.2 n hn).1) _).trans hshort
      have hnext := lookup_child hpath hnames.1.1 hnames.1.2 hentry
      cases names with
      | nil =>
          cases hget
          exact hnext hlink hchild
      | cons next names =>
          obtain ⟨inner, rfl⟩ := Entry.eq_dir_of_get? hget
          rw [ih (hnext nofun hchild) hnames.2 hget hshort, Location.child, List.append_assoc]
          rfl

end

-- ====================================================== dots in front

/-- A path with `./` in front of it some times. -/
def heres (n : Nat) (path : RawText) : RawText :=
  ⟨(List.replicate n [dot, slash]).flatten ++ path.bytes⟩

theorem length_heres (n : Nat) (path : RawText) :
    (heres n path).bytes.length = n * 2 + path.bytes.length := by
  simp [heres]

theorem segments_heres (n : Nat) (path : RawText) :
    segments (heres n path) = List.replicate n ("." : RawText) ++ segments path := by
  induction n with
  | zero => rfl
  | succ n ih =>
      have hsplit : (heres (n + 1) path).bytes = [dot] ++ slash :: (heres n path).bytes := by
        simp [heres, List.replicate_succ]
      rw [segments, hsplit, List.splitOn_append_cons_self,
        List.splitOn_eq_singleton (by decide), List.map_append, List.replicate_succ,
        List.cons_append, ← ih]
      rfl

theorem follow_heres (hplace : files.entry? place = some (.dir entries)) (n : Nat) :
    files.follow links place (List.replicate n ("." : RawText) ++ rest)
      = files.follow links place rest := by
  induction n with
  | zero => rfl
  | succ n ih => rw [List.replicate_succ, List.cons_append, follow_here hplace, ih]

/-- However often `./` stands in front of a relative path, it leads to the
same place, up to the length that paths may have. -/
theorem lookup_heres (hplace : files.entry? files.workingDir = some (.dir entries))
    {path : RawText} {entry : Entry} {n : Nat} (hrelative : isAbsolute path = false)
    (hshort : (heres n path).bytes.length ≤ longestPath)
    (h : files.lookup path = .ok (place, entry)) :
    files.lookup (heres n path) = .ok (place, entry) := by
  obtain ⟨hempty, -, hfollow, hentry⟩ := lookup_eq_ok_iff.1 h
  have hstart : startOf files.workingDir (heres n path) = startOf files.workingDir path := by
    have hdot : isAbsolute (heres n path) = false := by
      cases n with
      | zero => exact hrelative
      | succ n => rfl
    rw [startOf, startOf, hdot, hrelative]
  have hrelativeStart : startOf files.workingDir path = files.workingDir := by
    rw [startOf, hrelative, if_neg Bool.false_ne_true]
  refine lookup_eq_ok_iff.2 ⟨fun heq => hempty ?_, hshort, ?_, hentry⟩
  · have hnil : (List.replicate n [dot, slash]).flatten ++ path.bytes = [] :=
      congrArg RawText.bytes heq
    obtain ⟨bytes⟩ := path
    obtain rfl : bytes = [] := (List.append_eq_nil_iff.1 hnil).2
    rfl
  · rw [hstart, segments_heres, hrelativeStart, follow_heres hplace, ← hrelativeStart, hfollow]

end Files

end ContractDocs
