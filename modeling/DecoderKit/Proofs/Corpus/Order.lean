import DecoderKit.Proofs.Corpus.Listing

/-!
# A sorted listing does not show the order of the directory

The system lists a directory in an order of its own, and a request may ask for sorted
paths. They are sorted by their steps, before they are shown, and there the paths of one
directory differ in their last step only, which is the name. So there is one increasing
list of the names of the seeds, and whatever the system does, its paths are what is shown
(`sortBySteps_files`). Names stand behind the same bytes in all of them, so bytes would
have sorted the paths in the same way.
-/

namespace DecoderKit.Corpus

open FileTree (IsDirectory NoDirectory IsFile HasEntry)

variable {tree : FileTree} {order : Enumeration} {directory : Path} {place : Location}

/-- The names of the seeds of a directory, in increasing order. -/
structure SeedNames (tree : FileTree) (directory : Path) (place : Location) (names : List Name) :
    Prop where
  increasing : names.Pairwise (· < ·)
  mem_iff : ∀ name, name ∈ names ↔ HasEntry tree place name ∧ IsFile tree (directory.join name)

theorem SeedNames.nodup {names : List Name} (h : SeedNames tree directory place names) :
    names.Nodup := by
  refine h.increasing.imp ?_
  intro m n hmn heq
  rw [heq] at hmn
  exact List.lt_irrefl n hmn

/-- The bytes of the paths increase with the names. -/
theorem SeedNames.bytes_increasing {names : List Name} (h : SeedNames tree directory place names) :
    (names.map directory.join).Pairwise fun p q => p.bytes < q.bytes := by
  rw [List.pairwise_map]
  refine h.increasing.imp ?_
  intro m n hmn
  exact (Path.bytes_join_lt_iff directory).mpr hmn

/-- There is one such list. -/
theorem SeedNames.unique {names names' : List Name} (h : SeedNames tree directory place names)
    (h' : SeedNames tree directory place names') : names = names' := by
  have hperm : names.Perm names' := by
    rw [List.perm_ext_iff_of_nodup h.nodup h'.nodup]
    intro name
    rw [h.mem_iff, h'.mem_iff]
  refine List.Perm.eq_of_pairwise ?_ h.increasing h'.increasing hperm
  intro m n _ _ hmn hnm
  exact absurd hnm (List.lt_asymm hmn)

/-! ## Sorting -/

/-- Names in increasing order. -/
def sortNames (names : List Name) : List Name := names.mergeSort fun m n => decide (m ≤ n)

theorem pairwise_sortNames {names : List Name} (h : names.Nodup) :
    (sortNames names).Pairwise (· < ·) := by
  have hle : (sortNames names).Pairwise fun m n => decide (m ≤ n) = true := by
    refine List.pairwise_mergeSort ?_ ?_ names
    · intro l m n hlm hmn
      exact decide_eq_true (List.le_trans (of_decide_eq_true hlm) (of_decide_eq_true hmn))
    · intro m n
      simpa using List.le_total m n
  have hne : (sortNames names).Pairwise (· ≠ ·) := List.nodup_mergeSort.mpr h
  -- two different names that do not decrease increase
  refine hle.imp₂ ?_ hne
  intro m n hmn hne
  by_contra hlt
  exact hne (List.le_antisymm (of_decide_eq_true hmn) (List.not_lt.mp hlt))

/-- The paths in a directory are sorted as their names are. -/
theorem sortBySteps_map_join {names : List Name} (h : ∀ name ∈ names, IsEntryName name) :
    sortBySteps (names.map directory.join) = (sortNames names).map directory.join := by
  refine (List.map_mergeSort fun m hm n hn => ?_).symm
  rw [Bool.eq_iff_iff, decide_eq_true_iff, Path.isNoLater_join directory (h m hm) (h n hn)]

/-- **However a directory is listed, its sorted files are those of the increasing names.** -/
theorem sortBySteps_files (h : IsDirectory tree directory place) :
    ∃ names, SeedNames tree directory place names ∧ ∀ order, ∃ paths,
      files (tree.disk order) directory = .ok paths ∧ paths.Perm (names.map directory.join)
        ∧ sortBySteps paths = names.map directory.join := by
  have hsorted : ∀ order, ∃ names paths, SeedNames tree directory place names
      ∧ files (tree.disk order) directory = .ok paths ∧ paths.Perm (names.map directory.join)
      ∧ sortBySteps paths = names.map directory.join := by
    intro order
    obtain ⟨listed, hfiles, hnodup, hlisted⟩ := files_of_isDirectory order h
    have hperm : (sortNames listed).Perm listed := List.mergeSort_perm _ _
    refine ⟨sortNames listed, _, ⟨pairwise_sortNames hnodup, fun name => ?_⟩, hfiles,
      (hperm.map _).symm, sortBySteps_map_join fun name hname => ?_⟩
    · rw [hperm.mem_iff, hlisted]
    · exact ((hlisted name).mp hname).1.isEntryName
  -- the names of any one order serve all of them, since they are the same
  obtain ⟨names, _, hnames, _⟩ := hsorted .kept
  refine ⟨names, hnames, fun order => ?_⟩
  obtain ⟨names', paths, hnames', hrest⟩ := hsorted order
  rw [hnames.unique hnames']
  exact ⟨paths, hrest⟩

/-- Sorting by the steps of the paths or by their bytes makes no difference to the files. -/
theorem sortBySteps_eq_sortPaths {paths : List Path}
    (h : files (tree.disk order) directory = .ok paths) : sortBySteps paths = sortPaths paths := by
  obtain ⟨place, hdir⟩ := isDirectory_of_files h
  obtain ⟨names, hnames, hall⟩ := sortBySteps_files hdir
  obtain ⟨paths', hfiles, hperm, hsorted⟩ := hall order
  have hbytes : (names.map directory.join).Pairwise fun p q => p.bytes ≤ q.bytes :=
    hnames.bytes_increasing.imp List.le_of_lt
  rw [Except.ok.inj (h.symm.trans hfiles), hsorted]
  -- both lists hold the same paths without a decrease of their bytes
  refine List.Perm.eq_of_pairwise ?_ hbytes (pairwise_sortPaths paths')
    (hperm.symm.trans (sortPaths_perm paths').symm)
  intro p q _ _ hpq hqp
  cases p
  cases q
  exact congrArg Path.mk (List.le_antisymm hpq hqp)

/-! ## The line -/

theorem Request.mem_arrange_iff {request : Request} {paths : List Path} {p : Path} :
    p ∈ request.arrange paths ↔ p ∈ paths := by
  unfold arrange
  split
  · exact (List.mergeSort_perm _ _).mem_iff
  · rfl

theorem line_of_files {disk : Disk} {request : Request} {paths : List Path}
    (h : files disk request.directory = .ok paths) :
    request.line disk = .ok (joinPaths (request.arrange paths)) := by
  rw [Request.line, h]
  rfl

theorem line_of_noDirectory {request : Request} {e : IoError}
    (h : NoDirectory tree request.directory e) :
    request.line (tree.disk order) = .error (.ofIo request.directory e) := by
  rw [Request.line, files_of_noDirectory h]
  rfl

/-- A line is written of a directory. -/
theorem isDirectory_of_line {request : Request} {t : Text}
    (h : request.line (tree.disk order) = .ok t) :
    ∃ place, IsDirectory tree request.directory place := by
  rcases FileTree.isDirectory_or_noDirectory tree request.directory with hdir | ⟨e, he⟩
  · exact hdir
  · rw [line_of_noDirectory he] at h
    exact absurd h (by simp)

/-- **Sorted, a line does not depend on how the system lists the directory.** It shows the seeds in
increasing order of their names, which is that of the bytes of their paths; unsorted, it shows
them in some order. -/
theorem line_sorted (tree : FileTree) (directory : Path) :
    (∀ order order' : Enumeration, Request.line { directory, sorted := true } (tree.disk order)
        = Request.line { directory, sorted := true } (tree.disk order'))
      ∧ ∀ (order : Enumeration) (t : Text),
        Request.line { directory, sorted := true } (tree.disk order) = .ok t →
        ∃ names : List Name, names.Pairwise (· < ·)
          ∧ (names.map directory.join).Pairwise (fun p q => p.bytes < q.bytes)
          ∧ (∀ p, p ∈ names.map directory.join ↔ IsSeed tree directory p)
          ∧ t = [','].intercalate ((names.map directory.join).map Path.display)
          ∧ ∃ paths : List Path, paths.Perm (names.map directory.join)
            ∧ Request.line { directory, sorted := false } (tree.disk order)
              = .ok ([','].intercalate (paths.map Path.display)) := by
  refine ⟨fun order order' => ?_, fun order t h => ?_⟩
  · -- where there is no directory, there is no order either
    rcases FileTree.isDirectory_or_noDirectory tree directory with ⟨place, hdir⟩ | ⟨e, he⟩
    · obtain ⟨names, _, hall⟩ := sortBySteps_files hdir
      obtain ⟨paths, hfiles, _, hsorted⟩ := hall order
      obtain ⟨paths', hfiles', _, hsorted'⟩ := hall order'
      rw [line_of_files hfiles, line_of_files hfiles']
      show Except.ok (joinPaths (sortBySteps paths)) = .ok (joinPaths (sortBySteps paths'))
      rw [hsorted, hsorted']
    · rw [line_of_noDirectory he, line_of_noDirectory he]
  · obtain ⟨place, hdir⟩ := isDirectory_of_line h
    obtain ⟨names, hnames, hall⟩ := sortBySteps_files hdir
    obtain ⟨paths, hfiles, hperm, hsorted⟩ := hall order
    refine ⟨names, hnames.increasing, hnames.bytes_increasing,
      fun p => mem_map_join_iff hdir hnames.mem_iff, ?_, paths, hperm, line_of_files hfiles⟩
    rw [line_of_files hfiles] at h
    rw [← Except.ok.inj h]
    show joinPaths (sortBySteps paths) = _
    rw [hsorted]
    rfl

/-- A directory that the system lists with its second name first. -/
theorem line_sorted_mixed :
    Request.line { directory := .ofText "c".toList, sorted := false } mixedTree.disk
        = .ok "c/b,c/a".toList
      ∧ (∀ order, Request.line { directory := .ofText "c".toList, sorted := true }
        (mixedTree.disk order) = .ok "c/a,c/b".toList)
      ∧ ∃ names : List Name, names.Pairwise (· < ·)
        ∧ (∀ p, p ∈ names.map (Path.ofText "c".toList).join
          ↔ IsSeed mixedTree (.ofText "c".toList) p)
        ∧ "c/a,c/b".toList
          = [','].intercalate ((names.map (Path.ofText "c".toList).join).map Path.display) := by
  have hsort : ∀ p q : Path, p.isNoLater q = false → sortBySteps [p, q] = [q, p] := by
    intro p q h
    rw [sortBySteps, List.mergeSort]
    simp [List.MergeSort.Internal.splitInTwo, h]
  have hline : Request.line { directory := .ofText "c".toList, sorted := true } mixedTree.disk
      = .ok "c/a,c/b".toList := by
    rw [line_of_files files_mixedTree, Request.arrange, if_pos rfl, hsort _ _ (by decide +kernel)]
    decide +kernel
  obtain ⟨hsame, hshown⟩ := line_sorted mixedTree (.ofText "c".toList)
  obtain ⟨names, hincreasing, _, hseeds, ht, _⟩ := hshown .kept _ hline
  exact ⟨by decide +kernel, fun order => (hsame order .kept).trans hline, names, hincreasing,
    hseeds, ht⟩

end DecoderKit.Corpus
