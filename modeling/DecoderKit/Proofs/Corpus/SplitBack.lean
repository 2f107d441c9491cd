import Mathlib.Data.Set.Basic
import DecoderKit.Proofs.Corpus.Order
import DecoderKit.Proofs.Text.Utf8

/-!
# When a corpus line can be split back

A fuzzer splits its argument at the commas. It gets the seeds back if each of their paths
is a text without a comma, and if there is one at all. That this is needed as well lies
in what a piece can be: never nothing at all, never with a comma in it, and always a text.
-/

namespace DecoderKit

/-- The byte of a comma. -/
def commaByte : UInt8 := 0x2c

/-- No piece holds what the list was split at. -/
theorem not_mem_of_mem_splitOn {α : Type} [DecidableEq α] {a : α} {l : List α} :
    ∀ piece ∈ l.splitOn a, a ∉ piece := by
  induction l with
  | nil =>
      intro piece hpiece
      rw [List.splitOn_nil, List.mem_singleton] at hpiece
      rw [hpiece]
      exact List.not_mem_nil
  | cons b l ih =>
      rw [List.splitOn_cons_eq_if_modifyHead]
      -- a separator starts a new piece; anything else goes to the first piece of the rest
      by_cases hb : b = a
      · rw [if_pos (beq_iff_eq.mpr hb)]
        exact List.forall_mem_cons.mpr ⟨List.not_mem_nil, ih⟩
      · rw [if_neg (mt beq_iff_eq.mp hb)]
        cases hsplit : l.splitOn a with
        | nil => exact absurd hsplit (List.splitOn_ne_nil a l)
        | cons piece pieces =>
            rw [hsplit] at ih
            obtain ⟨hpiece, hpieces⟩ := List.forall_mem_cons.mp ih
            refine List.forall_mem_cons.mpr ⟨?_, hpieces⟩
            intro hmem
            rcases List.mem_cons.mp hmem with heq | hmem
            · exact hb heq.symm
            · exact hpiece hmem

theorem commaByte_mem_encode_iff {t : Text} : commaByte ∈ Utf8.encode t ↔ ',' ∈ t :=
  Utf8.mem_encode_iff (d := ',') (by decide)

namespace Corpus

variable {tree : FileTree} {order : Enumeration} {request : Request} {t : Text}

/-- The byte strings that a line is split into at its commas. -/
def piecesOf (t : Text) : Set Bytes := { b | ∃ piece ∈ t.splitOn ',', Utf8.encode piece = b }

/-- The paths of the seeds of a directory, as byte strings. -/
def seedsOf (tree : FileTree) (directory : Path) : Set Bytes :=
  { b | IsSeed tree directory ⟨b⟩ }

/-- A line shows the seeds of its directory. -/
theorem line_eq_ok (h : request.line (tree.disk order) = .ok t) :
    ∃ paths, (∀ p, p ∈ paths ↔ IsSeed tree request.directory p) ∧ t = joinPaths paths := by
  obtain ⟨place, hdir⟩ := isDirectory_of_line h
  obtain ⟨names, hfiles, _, hnames⟩ := files_of_isDirectory order hdir
  rw [line_of_files hfiles] at h
  refine ⟨_, fun p => ?_, (Except.ok.inj h).symm⟩
  rw [← mem_map_join_iff hdir hnames, Request.mem_arrange_iff]

theorem nonempty_piecesOf (t : Text) : ∃ b, b ∈ piecesOf t := by
  obtain ⟨piece, hpiece⟩ := List.exists_mem_of_ne_nil _ (List.splitOn_ne_nil ',' t)
  exact ⟨_, piece, hpiece, rfl⟩

/-- A piece encodes a text and has no comma. -/
theorem of_mem_piecesOf {b : Bytes} (h : b ∈ piecesOf t) :
    (∃ s, Utf8.encode s = b) ∧ commaByte ∉ b := by
  obtain ⟨piece, hpiece, rfl⟩ := h
  refine ⟨⟨piece, rfl⟩, ?_⟩
  rw [commaByte_mem_encode_iff]
  exact not_mem_of_mem_splitOn piece hpiece

/-- Texts without commas are the pieces of what they are joined to. -/
theorem piecesOf_joinPaths {paths : List Path} (hne : paths ≠ [])
    (h : ∀ p ∈ paths, (∃ s, Utf8.encode s = p.bytes) ∧ commaByte ∉ p.bytes) :
    piecesOf (joinPaths paths) = { b | ⟨b⟩ ∈ paths } := by
  have hshown : ∀ p ∈ paths, Utf8.encode p.display = p.bytes := by
    intro p hp
    exact Utf8.encode_decodeLossy_iff.mpr (h p hp).1
  have hcomma : ∀ s ∈ paths.map Path.display, ',' ∉ s := by
    intro s hs
    obtain ⟨p, hp, rfl⟩ := List.mem_map.mp hs
    rw [← commaByte_mem_encode_iff, hshown p hp]
    exact (h p hp).2
  have hsplit : (joinPaths paths).splitOn ',' = paths.map Path.display :=
    List.splitOn_intercalate ',' hcomma (by simpa using hne)
  -- what is shown of a path is the path, so pieces and paths are the same bytes
  ext b
  show (∃ piece ∈ (joinPaths paths).splitOn ',', Utf8.encode piece = b) ↔ ⟨b⟩ ∈ paths
  rw [hsplit]
  constructor
  · rintro ⟨piece, hpiece, rfl⟩
    obtain ⟨p, hp, rfl⟩ := List.mem_map.mp hpiece
    rw [hshown p hp]
    exact hp
  · intro hb
    exact ⟨_, List.mem_map_of_mem hb, hshown _ hb⟩

/-- **A line is split back into the seeds of its directory if there are any and each path is a text
without a comma, and only then.** -/
theorem line_splits_iff (h : request.line (tree.disk order) = .ok t) :
    piecesOf t = seedsOf tree request.directory ↔
      (∃ p, IsSeed tree request.directory p)
        ∧ ∀ p, IsSeed tree request.directory p →
          (∃ s, Utf8.encode s = p.bytes) ∧ commaByte ∉ p.bytes := by
  constructor
  · -- pieces are texts without commas, and there is always one, so the seeds have to be like that
    intro heq
    refine ⟨?_, fun p hp => ?_⟩
    · obtain ⟨b, hb⟩ := nonempty_piecesOf t
      rw [heq] at hb
      exact ⟨⟨b⟩, hb⟩
    · have hmem : p.bytes ∈ piecesOf t := by
        rw [heq]
        exact hp
      exact of_mem_piecesOf hmem
  · rintro ⟨⟨p, hp⟩, htexts⟩
    obtain ⟨paths, hpaths, rfl⟩ := line_eq_ok h
    rw [piecesOf_joinPaths (List.ne_nil_of_mem ((hpaths p).mpr hp))
      fun q hq => htexts q ((hpaths q).mp hq)]
    ext b
    exact hpaths ⟨b⟩

/-- A file and a link to it are two pieces. -/
theorem line_splits_iff_mixed :
    Request.line { directory := .ofText "c".toList } mixedTree.disk = .ok "c/b,c/a".toList
      ∧ piecesOf "c/b,c/a".toList = seedsOf mixedTree (.ofText "c".toList) := by
  have hline : Request.line { directory := .ofText "c".toList } mixedTree.disk
      = .ok "c/b,c/a".toList := by decide +kernel
  have hseeds := (files_eq_ok files_mixedTree).2
  refine ⟨hline, (line_splits_iff hline).mpr ⟨⟨.ofText "c/b".toList, ?_⟩, fun p hp => ?_⟩⟩
  · exact (hseeds _).mp (List.mem_cons_self ..)
  · rcases List.mem_pair.mp ((hseeds p).mpr hp) with rfl | rfl
    · exact ⟨⟨"c/b".toList, rfl⟩, by decide +kernel⟩
    · exact ⟨⟨"c/a".toList, rfl⟩, by decide +kernel⟩

end Corpus

end DecoderKit
