import DecoderKit.Corpus.Listing
import DecoderKit.Proofs.Log.Reporting
import DecoderKit.Proofs.Text.Utf8

/-!
# What is reported of a corpus

Listing a corpus goes through its names, and joining goes through the paths of its files. Either
reports as it goes, and neither does anything but report with what it is handed for that: the files
that are listed are those of a survey (`yields_list`), and the text is that of the paths
(`yields_join`), whatever becomes of the events.

A path is warned about by a question to a strict decoder, and printed by a scan of its bytes for
characters and stray pieces. The two agree because a scan gives back any text that was encoded, so
printing leaves a path alone exactly if it is a text (`Path.isText_iff`).
-/

namespace DecoderKit

/-- The bytes that a path is printed as. -/
def Path.printed (p : Path) : Bytes := Utf8.encode p.display

/-- **A path is printed as it is exactly if it is a text.** -/
theorem Path.isText_iff {p : Path} : p.isText = true ↔ p.printed = p.bytes := by
  rw [Path.isText, Utf8.isValid_iff, Path.printed, Path.display, Utf8.encode_decodeLossy_iff]

namespace Corpus

open Log (Event Yields)

/-- What is reported about an entry. -/
def Entry.event? : Entry → Option Event
  | .seed _ => none
  | .nonFile path => some (.nonFile path)
  | .unreadable path error => some (.unreadable path error)

/-- The events of listing a directory. -/
def listingEvents (directory : Path) (survey : Except Fault (List Entry)) : List Event :=
  .listing directory ::
    match survey with
    | .error _ => []
    | .ok entries => entries.filterMap Entry.event? ++ [.seedsFound (seeds entries).length]

/-- A warning about each path that is printed as something else, in their order. -/
def warnings (paths : List Path) : List Event :=
  (paths.filter fun p => p.printed ≠ p.bytes).map .notText

/-- The events of printing a corpus. -/
def Request.events (request : Request) (disk : Disk) : List Event :=
  let survey := survey disk request.directory
  listingEvents request.directory survey ++
    match survey with
    | .error _ => []
    | .ok entries => warnings (request.arrange (seeds entries))

variable {disk : Disk} {directory : Path}

/-- **The loop over the names keeps the seeds and reports the other entries.** -/
theorem yields_collect (names : List Name) :
    Yields (collect disk directory names)
      ((names.map fun name => classify disk (directory.join name)).filterMap Entry.event?)
      (seeds (names.map fun name => classify disk (directory.join name))) := by
  induction names with
  | nil => exact .pure []
  | cons name rest ih =>
      -- one name: what it leads to decides what is kept and what is reported
      rw [collect, List.map_cons, seeds, classify]
      cases hkind : disk.kind (directory.join name) with
      | error error => exact .cons ih
      | ok kind =>
          cases kind with
          | regular => exact ih.quiet (.pure _)
          | directory => exact .cons ih
          | special => exact .cons ih

/-- **What is listed are the files of the survey.** -/
theorem yields_list (disk : Disk) (directory : Path) :
    Yields (list disk directory) (listingEvents directory (survey disk directory))
      (files disk directory) := by
  rw [list, files, survey]
  cases disk.entries directory with
  | error error => exact .cons (.pure _)
  | ok names =>
      refine .cons ((yields_collect names).bind ?_)
      exact .cons (.pure _)

/-- The loop over the paths shows each of them, and warns about those that are not shown as they
are. -/
theorem yields_displayAll (paths : List Path) :
    Yields (displayAll paths) (warnings paths) (paths.map Path.display) := by
  induction paths with
  | nil => exact .pure []
  | cons path rest ih =>
      rw [displayAll, warnings, List.map_cons]
      -- the question to the decoder and the filter of the warnings have the same answer
      cases htext : path.isText with
      | true =>
          have hprinted := Path.isText_iff.mp htext
          rw [List.filter_cons_of_neg (by simpa using hprinted)]
          exact ih.quiet (.pure _)
      | false =>
          have hprinted : path.printed ≠ path.bytes := fun h =>
            Bool.false_ne_true (htext.symm.trans (Path.isText_iff.mpr h))
          rw [List.filter_cons_of_pos (by simpa using hprinted)]
          exact .cons (ih.quiet (.pure _))

/-- **Joining warns about the paths that are printed as something else, and joins all of them.** -/
theorem yields_join (paths : List Path) : Yields (join paths) (warnings paths) (joinPaths paths) :=
  (yields_displayAll paths).quiet (.pure _)

/-- **What is printed of a corpus is the line that is asked for.** -/
theorem Request.yields_print (request : Request) (disk : Disk) :
    Yields (request.print disk) (request.events disk) (request.line disk) := by
  have hlist := yields_list disk request.directory
  rw [Request.print, Request.events, Request.line, files]
  rw [files] at hlist
  refine hlist.bind ?_
  cases survey disk request.directory with
  | error fault => exact .pure _
  | ok entries => exact (yields_join _).quiet (.pure _)

end Corpus

end DecoderKit
