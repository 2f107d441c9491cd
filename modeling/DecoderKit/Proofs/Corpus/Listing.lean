import Mathlib.Data.List.Nodup
import DecoderKit.Corpus.Line
import DecoderKit.Proofs.Files.PathOrder
import DecoderKit.Proofs.Files.Resolution

/-!
# What is listed of a directory

`IsSeed` says which paths belong to a corpus: each is the directory as it is spelled, a
slash unless there is one, and the name of an entry, and it leads to a regular file, be it
through links. `files_exact` says that these paths are listed and no others, each once, in
whatever order the system lists a directory. All that can go wrong is that there is no
directory to list; what is wrong with an entry only leaves that entry out.

The listing is a list of names under one directory (`files_of_isDirectory`). That is the
form in which the order and the text of a listing are looked at elsewhere.
-/

namespace DecoderKit

namespace FileTree

/-- The directory at a place has something under this name. -/
def HasEntry (tree : FileTree) (place : Location) (name : Name) : Prop :=
  tree.node? (place ++ [name]) ≠ none

variable {tree : FileTree} {place : Location} {name : Name}

theorem mem_namesIn_iff : name ∈ tree.namesIn place ↔ HasEntry tree place name := by
  have hnode : tree.node? (place ++ [name]) = tree.nodes.lookup (place ++ [name]) := by
    unfold node?
    -- the root is a node without being listed, but it has no name
    split
    · rename_i hnil
      exact absurd hnil (by simp)
    · rfl
  rw [mem_namesIn, HasEntry, hnode, Ne, List.lookup_eq_none_iff]
  constructor
  · rintro ⟨node, hmem⟩ hnone
    exact absurd (hnone _ hmem) (by simp)
  · intro h
    by_contra hno
    refine h fun entry hentry => ?_
    rw [bne_iff_ne]
    intro heq
    exact hno ⟨entry.2, heq ▸ hentry⟩

/-- What a directory has under a name is an entry with a proper name. -/
theorem HasEntry.isEntryName (h : HasEntry tree place name) : IsEntryName name := by
  obtain ⟨node, hmem⟩ := mem_namesIn.mp (mem_namesIn_iff.mpr h)
  exact tree.named _ hmem name (List.mem_append_right _ (List.mem_singleton_self name))

theorem nodup_eraseDups {α : Type} [BEq α] [LawfulBEq α] : (l : List α) → l.eraseDups.Nodup
  | [] => by simp
  | a :: l => by
      rw [List.eraseDups_cons, List.nodup_cons]
      constructor
      · intro hmem
        have hfiltered := List.mem_eraseDups.mp hmem
        simp at hfiltered
      · exact nodup_eraseDups _
termination_by l => l.length
decreasing_by exact Nat.lt_succ_of_le (List.length_filter_le ..)

theorem nodup_namesIn (tree : FileTree) (place : Location) : (tree.namesIn place).Nodup :=
  nodup_eraseDups _

end FileTree

namespace Corpus

open FileTree (IsDirectory NoDirectory IsFile HasEntry Missing)

variable {tree : FileTree} {order : Enumeration} {directory : Path} {place : Location}

/-- The path is that of a regular file right in a directory: the directory as it is spelled, a slash
unless there is one, and the name of an entry. -/
def IsSeed (tree : FileTree) (directory p : Path) : Prop :=
  ∃ place name, IsDirectory tree directory place ∧ HasEntry tree place name
    ∧ p.bytes = directory.bytes
      ++ (if directory.bytes.getLast? = some Path.slash then [] else [Path.slash]) ++ name
    ∧ IsFile tree p

/-- A path is a seed if it is a regular file. -/
theorem seed?_classify {disk : Disk} {p q : Path} :
    (classify disk p).seed? = some q ↔ disk.kind p = .ok .regular ∧ p = q := by
  unfold classify
  split
  · rename_i hkind
    rw [hkind]
    simp [Entry.seed?]
  · -- of every other kind it is an entry, but no seed
    rename_i kind hnot hkind
    rw [hkind]
    constructor
    · intro h
      exact absurd h (by simp [Entry.seed?])
    · intro h
      exact absurd (Except.ok.inj h.1) hnot
  · rename_i e hkind
    rw [hkind]
    simp [Entry.seed?]

/-- The files of a directory, by the names that the disk lists. -/
theorem files_of_entries {disk : Disk} {names : List Name}
    (h : disk.entries directory = .ok names) :
    files disk directory = .ok ((names.filter fun name =>
      disk.kind (directory.join name) = .ok .regular).map directory.join) := by
  unfold files survey
  rw [h]
  refine congrArg Except.ok ?_
  unfold seeds
  clear h
  -- the names are looked at one by one, and a name stays if its path is a seed
  induction names with
  | nil => rfl
  | cons name names ih =>
      by_cases hkind : disk.kind (directory.join name) = .ok .regular
      · rw [List.map_cons, List.filterMap_cons_some (seed?_classify.mpr ⟨hkind, rfl⟩), ih,
          List.filter_cons_of_pos (by simpa using hkind), List.map_cons]
      · have hnone : (classify disk (directory.join name)).seed? = none := by
          rw [Option.eq_none_iff_forall_ne_some]
          intro q hq
          exact hkind (seed?_classify.mp hq).1
        rw [List.map_cons, List.filterMap_cons_none hnone, ih,
          List.filter_cons_of_neg (by simpa using hkind)]

theorem files_of_noDirectory {e : IoError} (h : NoDirectory tree directory e) :
    files (tree.disk order) directory = .error (.ofIo directory e) := by
  unfold files survey
  rw [FileTree.entries_of_noDirectory h]
  rfl

/-- **A directory is listed by the names of its seeds, each once.** -/
theorem files_of_isDirectory (order : Enumeration) (h : IsDirectory tree directory place) :
    ∃ names : List Name, files (tree.disk order) directory = .ok (names.map directory.join)
      ∧ names.Nodup
      ∧ ∀ name, name ∈ names ↔ HasEntry tree place name ∧ IsFile tree (directory.join name) := by
  refine ⟨_, files_of_entries (FileTree.entries_of_isDirectory h), ?_, ?_⟩
  · -- a disk may list its names in any order, but it lists none of them twice
    refine List.Nodup.filter _ ?_
    exact (order.perm place _).nodup_iff.mpr (FileTree.nodup_namesIn tree place)
  · intro name
    rw [List.mem_filter, (order.perm place _).mem_iff, FileTree.mem_namesIn_iff, decide_eq_true_iff,
      FileTree.kind_eq_regular_iff]

/-- A directory is spelled by some bytes, and a path in it by these, a slash and a name. -/
theorem bytes_join (h : directory.bytes ≠ []) (name : Name) :
    (directory.join name).bytes = directory.bytes
      ++ (if directory.bytes.getLast? = some Path.slash then [] else [Path.slash]) ++ name := by
  unfold Path.join
  -- no slash is put behind one that is there
  by_cases hslash : directory.bytes.getLast? = some Path.slash
  · rw [if_pos (Or.inr hslash), if_pos hslash, List.append_nil]
  · rw [if_neg (not_or.mpr ⟨h, hslash⟩), if_neg hslash, List.append_assoc]
    rfl

theorem bytes_ne_nil_of_isDirectory (h : IsDirectory tree directory place) :
    directory.bytes ≠ [] := by
  cases h.1 with
  | walked hwalkable => exact hwalkable.nonempty

theorem isSeed_iff (h : IsDirectory tree directory place) {p : Path} :
    IsSeed tree directory p ↔ ∃ name, HasEntry tree place name
      ∧ IsFile tree (directory.join name) ∧ directory.join name = p := by
  have hbytes := bytes_join (bytes_ne_nil_of_isDirectory h)
  constructor
  · -- the directory leads to one place, so the entries are the same
    rintro ⟨place', name, hdir, hentry, hp, hfile⟩
    have hplace : place' = place := Except.ok.inj (hdir.1.unique h.1)
    have heq : directory.join name = p := by
      rw [← hbytes] at hp
      cases p
      exact congrArg Path.mk hp.symm
    exact ⟨name, hplace ▸ hentry, by rw [heq]; exact hfile, heq⟩
  · rintro ⟨name, hentry, hfile, rfl⟩
    exact ⟨place, name, h, hentry, hbytes name, hfile⟩

/-- The names of the seeds give their paths. -/
theorem mem_map_join_iff (h : IsDirectory tree directory place) {names : List Name}
    (hnames : ∀ name, name ∈ names
      ↔ HasEntry tree place name ∧ IsFile tree (directory.join name)) {p : Path} :
    p ∈ names.map directory.join ↔ IsSeed tree directory p := by
  rw [List.mem_map, isSeed_iff h]
  constructor
  · rintro ⟨name, hname, hp⟩
    exact ⟨name, ((hnames name).mp hname).1, ((hnames name).mp hname).2, hp⟩
  · rintro ⟨name, hentry, hfile, hp⟩
    exact ⟨name, (hnames name).mpr ⟨hentry, hfile⟩, hp⟩

/-- What is listed is listed of a directory. -/
theorem isDirectory_of_files {paths : List Path}
    (h : files (tree.disk order) directory = .ok paths) :
    ∃ place, IsDirectory tree directory place := by
  rcases FileTree.isDirectory_or_noDirectory tree directory with hdir | ⟨e, he⟩
  · exact hdir
  · rw [files_of_noDirectory he] at h
    exact absurd h (by simp)

/-- The paths that are listed are the seeds, each once. -/
theorem files_eq_ok {paths : List Path} (h : files (tree.disk order) directory = .ok paths) :
    paths.Nodup ∧ ∀ p, p ∈ paths ↔ IsSeed tree directory p := by
  obtain ⟨place, hdir⟩ := isDirectory_of_files h
  obtain ⟨names, hfiles, hnodup, hnames⟩ := files_of_isDirectory order hdir
  rw [← Except.ok.inj (hfiles.symm.trans h)]
  exact ⟨hnodup.map fun _ _ => Path.join_injective directory,
    fun p => mem_map_join_iff hdir hnames⟩

/-- A listing fails as opening the directory fails. -/
theorem files_eq_error_iff {fault : Fault} : files (tree.disk order) directory = .error fault
    ↔ ∃ e, NoDirectory tree directory e ∧ fault = .ofIo directory e := by
  constructor
  · intro h
    rcases FileTree.isDirectory_or_noDirectory tree directory with ⟨place, hdir⟩ | ⟨e, he⟩
    · -- a directory is listed, whatever becomes of its entries
      obtain ⟨names, hfiles, _⟩ := files_of_isDirectory order hdir
      rw [hfiles] at h
      exact absurd h (by simp)
    · rw [files_of_noDirectory he] at h
      exact ⟨e, he, (Except.error.inj h).symm⟩
  · rintro ⟨e, he, rfl⟩
    exact files_of_noDirectory he

/-- A missing directory has a fault of its own; the other errors are told as they are. -/
theorem noDirectory_ofIo_iff {fault : Fault} :
    (∃ e, NoDirectory tree directory e ∧ fault = .ofIo directory e)
      ↔ Missing tree directory ∧ fault = .notFound directory
        ∨ ∃ e, (e = .notDirectory ∨ e = .nameTooLong ∨ e = .tooManyLinks ∨ e = .zeroByte)
          ∧ NoDirectory tree directory e ∧ fault = .io e := by
  have hother : ∀ e : IoError,
      e = .notDirectory ∨ e = .nameTooLong ∨ e = .tooManyLinks ∨ e = .zeroByte →
      Fault.ofIo directory e = .io e := by
    intro e he
    rcases he with rfl | rfl | rfl | rfl <;> rfl
  constructor
  · rintro ⟨e, he, rfl⟩
    -- of the errors of looking up a path only that of a missing entry has a fault of its own
    rcases he.error_cases with rfl | hne
    · exact Or.inl ⟨FileTree.noDirectory_noEntry_iff.mp he, rfl⟩
    · exact Or.inr ⟨e, hne, he, hother e hne⟩
  · intro h
    rcases h with ⟨hmissing, rfl⟩ | ⟨e, hne, he, rfl⟩
    · exact ⟨.noEntry, FileTree.noDirectory_noEntry_iff.mpr hmissing, rfl⟩
    · exact ⟨e, he, (hother e hne).symm⟩

/-- **Exactly the seeds of a directory are listed, and only the directory itself can make the
listing fail.** -/
theorem files_exact (tree : FileTree) (order : Enumeration) (directory : Path) :
    ((∃ paths, files (tree.disk order) directory = .ok paths)
        ↔ ∃ place, IsDirectory tree directory place)
      ∧ (∀ paths, files (tree.disk order) directory = .ok paths →
        paths.Nodup ∧ ∀ p, p ∈ paths ↔ IsSeed tree directory p)
      ∧ ∀ fault, files (tree.disk order) directory = .error fault ↔
        Missing tree directory ∧ fault = .notFound directory
        ∨ ∃ e, (e = .notDirectory ∨ e = .nameTooLong ∨ e = .tooManyLinks ∨ e = .zeroByte)
          ∧ NoDirectory tree directory e ∧ fault = .io e := by
  refine ⟨⟨fun ⟨_, h⟩ => isDirectory_of_files h, fun ⟨place, hdir⟩ => ?_⟩,
    fun paths h => files_eq_ok h, fun fault => ?_⟩
  · obtain ⟨names, hfiles, _⟩ := files_of_isDirectory order hdir
    exact ⟨_, hfiles⟩
  · rw [files_eq_error_iff, noDirectory_ofIo_iff]

/-- A corpus `c` of a file `b` and a link `a` to it. Next to them stand a directory `s` with a file,
a link `x` that leads nowhere and a link `l` to itself. -/
def mixedTree : FileTree where
  nodes :=
    [([[0x63]], .directory), ([[0x63], [0x62]], .file []), ([[0x63], [0x61]], .link [0x62]),
      ([[0x63], [0x73]], .directory), ([[0x63], [0x73], [0x66]], .file []),
      ([[0x63], [0x78]], .link [0x79]), ([[0x63], [0x6c]], .link [0x6c])]
  working := []

theorem files_mixedTree : files mixedTree.disk (.ofText "c".toList)
    = .ok [.ofText "c/b".toList, .ofText "c/a".toList] := by
  decide +kernel

/-- The link to a file is listed with the file; the other entries can only be listed themselves, and
fail each for its reason. -/
theorem files_exact_mixed :
    files mixedTree.disk (.ofText "c".toList)
        = .ok [.ofText "c/b".toList, .ofText "c/a".toList]
      ∧ (∀ p, p ∈ [.ofText "c/b".toList, .ofText "c/a".toList]
        ↔ IsSeed mixedTree (.ofText "c".toList) p)
      ∧ files mixedTree.disk (.ofText "c/x".toList) = .error (.notFound (.ofText "c/x".toList))
      ∧ Missing mixedTree (.ofText "c/x".toList)
      ∧ files mixedTree.disk (.ofText "c/l".toList) = .error (.io .tooManyLinks)
      ∧ NoDirectory mixedTree (.ofText "c/l".toList) .tooManyLinks := by
  have hx : files mixedTree.disk (.ofText "c/x".toList)
      = .error (.notFound (.ofText "c/x".toList)) := by decide +kernel
  have hl : files mixedTree.disk (.ofText "c/l".toList) = .error (.io .tooManyLinks) := by
    decide +kernel
  obtain ⟨_, hlisted, _⟩ := files_exact mixedTree .kept (.ofText "c".toList)
  obtain ⟨_, _, hmissing⟩ := files_exact mixedTree .kept (.ofText "c/x".toList)
  obtain ⟨_, _, hlooping⟩ := files_exact mixedTree .kept (.ofText "c/l".toList)
  refine ⟨files_mixedTree, (hlisted _ files_mixedTree).2, hx, ?_, hl, ?_⟩
  · rcases (hmissing _).mp hx with ⟨h, _⟩ | ⟨e, _, _, hfault⟩
    · exact h
    · exact absurd hfault (by simp)
  · rcases (hlooping _).mp hl with ⟨_, hfault⟩ | ⟨e, _, h, hfault⟩
    · exact absurd hfault (by simp)
    · rw [Fault.io.inj hfault]
      exact h

end Corpus

end DecoderKit
