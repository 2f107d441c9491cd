import DecoderKit.Corpus.Survey

/-!
# A corpus on one line

A fuzzer takes its seed files as one comma separated argument. A path that is no
text is written with replacement characters; it will not lead to its file, so a
tool warns about each such path.
-/

namespace DecoderKit.Corpus

/-- The corpus directory if none is named. -/
def defaultDirectory : String := "./tests/corpus"

/-- Which corpus is listed, and how. -/
structure Request where
  directory : Path := .ofText defaultDirectory.toList
  /-- Whether to sort the files by the steps of their paths. -/
  sorted : Bool := false
deriving DecidableEq, Repr

/-- Paths in the order of their bytes. -/
def sortPaths (paths : List Path) : List Path :=
  paths.mergeSort fun p q => decide (p.bytes ≤ q.bytes)

/-- Sorting keeps every file, as often as it was there. -/
theorem sortPaths_perm (paths : List Path) : (sortPaths paths).Perm paths :=
  List.mergeSort_perm _ _

theorem pairwise_sortPaths (paths : List Path) :
    (sortPaths paths).Pairwise fun p q => p.bytes ≤ q.bytes := by
  refine (List.pairwise_mergeSort ?_ ?_ paths).imp of_decide_eq_true
  · intro p q r hpq hqr
    exact decide_eq_true (List.le_trans (of_decide_eq_true hpq) (of_decide_eq_true hqr))
  · intro p q
    simpa using List.le_total p.bytes q.bytes

/-- Paths in the order of their steps. -/
def sortBySteps (paths : List Path) : List Path := paths.mergeSort Path.isNoLater

/-- Paths as one comma separated text. -/
def joinPaths (paths : List Path) : Text := [','].intercalate (paths.map Path.display)

/-- Files in the order that a request asks for. -/
def Request.arrange (request : Request) (paths : List Path) : List Path :=
  if request.sorted then sortBySteps paths else paths

/-- The line that a request asks for. -/
def Request.line (request : Request) (disk : Disk) : Except Fault Text :=
  (files disk request.directory).map fun paths => joinPaths (request.arrange paths)

end DecoderKit.Corpus
