import DecoderKit.Command.CorpusTool
import DecoderKit.Command.PlainKit
import DecoderKit.Proofs.Command.Run
import DecoderKit.Proofs.Corpus.Order
import DecoderKit.Proofs.Corpus.Reporting
import DecoderKit.Proofs.Corpus.SplitBack
import DecoderKit.Proofs.Log.PlainLog
import DecoderKit.Proofs.Text.Quotation

/-!
# Which paths are warned about

A path is printed with replacement characters for what is no text, and a warning says so. A
replacement character that belongs to the name is no reason to warn. What is listed leads to a file,
so a printed form that does not is one that is warned about.

The converse fails. A printed form may lead to a file without being the path, namely to another file
that happens to have the replacement characters in its name (`warnings_twins`).

At the level of warnings, a run that lists a corpus logs these warnings and nothing else, each on a
line of its own, since a quoted path has no controls in it.
-/

namespace DecoderKit

open Log (Event Tells Yields)

variable {p : Path} {paths : List Path} {disk : Disk} {directory : Path}

/-- What is always printed of a path is a text. -/
theorem Path.isValid_printed (p : Path) : Utf8.isValid p.printed = true :=
  Utf8.isValid_iff.mpr ⟨p.display, rfl⟩

theorem Path.printed_ofText (t : Text) : (Path.ofText t).printed = (Path.ofText t).bytes :=
  Path.isText_iff.mp (Utf8.isValid_iff.mpr ⟨t, rfl⟩)

/-- A text resolves if it leads to a regular file. -/
def Disk.Resolves (disk : Disk) (t : Text) : Prop := disk.kind (Path.ofText t) = .ok .regular

instance (disk : Disk) (t : Text) : Decidable (disk.Resolves t) :=
  inferInstanceAs (Decidable (_ = _))

namespace Corpus

theorem encode_joinPaths (paths : List Path) :
    Utf8.encode (joinPaths paths) = [commaByte].intercalate (paths.map Path.printed) := by
  have hcomma : Utf8.encode [','] = [commaByte] := by decide +kernel
  rw [joinPaths, Utf8.encode_intercalate, hcomma, List.map_map]
  rfl

/-- What is listed is a regular file. -/
theorem kind_of_mem_files (h : files disk directory = .ok paths) (hp : p ∈ paths) :
    disk.kind p = .ok .regular := by
  cases hnames : disk.entries directory with
  | error e => exact absurd h (by simp [files, survey, hnames, Except.map])
  | ok names =>
      rw [files_of_entries hnames] at h
      rw [← Except.ok.inj h] at hp
      obtain ⟨name, hname, rfl⟩ := List.mem_map.mp hp
      simpa using (List.mem_filter.mp hname).2

/-- A listed path that is printed as it is resolves. -/
theorem resolves_of_printed (h : files disk directory = .ok paths) (hp : p ∈ paths)
    (hprinted : p.printed = p.bytes) : disk.Resolves p.display := by
  have hsame : Path.ofText p.display = p := by
    cases p
    exact congrArg Path.mk hprinted
  rw [Disk.Resolves, hsame]
  exact kind_of_mem_files h hp

/-! ## What is reported up to the level of warnings -/

theorem isPlain_notText (p : Path) : (Event.notText p).IsPlain := by
  intro detail hdetail c hc
  rw [Event.details, List.mem_singleton] at hdetail
  rw [hdetail] at hc
  exact Text.not_isControl_of_isShown (Quoted.isShown_of_mem_quoteBytes hc)

/-- A listing warns about nothing, whatever it comes upon. -/
theorem notText_notMem_listingEvents (survey : Except Fault (List Entry)) :
    .notText p ∉ listingEvents directory survey := by
  intro h
  cases survey with
  | error fault => exact absurd h (by simp [listingEvents])
  | ok entries =>
      obtain ⟨entry, _, hentry⟩ : ∃ entry ∈ entries, entry.event? = some (.notText p) := by
        simpa [listingEvents] using h
      cases entry <;> cases hentry

section ShowsWarnings

variable {shows : Event → Bool}
  (hshows : ∀ event, shows event = decide (event.level.rank ≤ Log.Level.warn.rank))

include hshows

theorem filter_listingEvents (survey : Except Fault (List Entry)) :
    (listingEvents directory survey).filter shows = [] := by
  refine List.filter_eq_nil_iff.mpr fun event hevent hshown => ?_
  rw [hshows, decide_eq_true_iff, Event.rank_le_warn_iff] at hshown
  obtain ⟨p, rfl⟩ := hshown
  exact notText_notMem_listingEvents survey hevent

theorem filter_warnings (paths : List Path) : (warnings paths).filter shows = warnings paths := by
  refine List.filter_eq_self.mpr fun event hevent => ?_
  obtain ⟨p, _, rfl⟩ := List.mem_map.mp hevent
  rw [hshows]
  rfl

/-- Of printing a corpus, the warnings are shown at their level and nothing else. -/
theorem Request.filter_events {request : Request}
    (h : files disk request.directory = .ok paths) :
    (request.events disk).filter shows = warnings (request.arrange paths) := by
  rw [files] at h
  rw [Request.events]
  cases hsurvey : survey disk request.directory with
  | error fault => exact absurd h (by simp [hsurvey, Except.map])
  | ok entries =>
      rw [hsurvey] at h
      obtain rfl : seeds entries = paths := Except.ok.inj h
      rw [List.filter_append, filter_listingEvents hshows, List.nil_append]
      exact filter_warnings hshows _

end ShowsWarnings

end Corpus

namespace Command.CorpusTool

open Corpus (joinPaths)

variable {kit : Kit} {isLogLine : Text → Bool}

/-- **What the tool does is to print the line, or to say why there is none.** -/
theorem yields_program (host : Host) (request : Corpus.Request) :
    Yields (program host request) (request.events host.disk)
      (match request.line host.disk with
        | .error fault => .error (.ofFault "listing corpus" fault)
        | .ok line => .ok (line ++ ['\n'])) := by
  have hprint := request.yields_print host.disk
  rw [program]
  cases hline : request.line host.disk with
  | error fault =>
      rw [hline] at hprint
      exact hprint.quiet (.pure _)
  | ok line =>
      rw [hline] at hprint
      exact hprint.quiet (.pure _)

/-- **A warning is logged for exactly the paths whose printed form is not the path.** Joined, each
path is printed as a text, and it is reported if that is something else than the path; a name that
is a text is printed as it is, whatever characters it has. At the level of warnings, a run that
lists a directory writes nothing but a line for each such path, in the order in which they are
printed, and succeeds. Every path that will not resolve as it is printed is among them. -/
theorem warnings_exact (hlevels : kit.log.KnowsLevels) (hlines : kit.log.WritesLines isLogLine) :
    (∀ paths : List Path,
      Yields (Corpus.join paths) ((paths.filter fun p => p.printed ≠ p.bytes).map .notText)
          (joinPaths paths)
        ∧ Utf8.encode (joinPaths paths) = [commaByte].intercalate (paths.map Path.printed)
        ∧ (∀ p ∈ paths, Utf8.isValid p.printed = true)
        ∧ ∀ t : Text, (Path.ofText t).printed = (Path.ofText t).bytes)
      ∧ ∀ (host : Host) (words : List Bytes) (request : Corpus.Request) (paths : List Path),
        kit.corpusParser host.environment words = .given request →
        host.environment.log = none ∨ kit.log.fromSetting host.environment.log = none →
        Corpus.files host.disk request.directory = .ok paths →
        (run kit host words).exitCode = 0
          ∧ (run kit host words).output = joinPaths (request.arrange paths) ++ ['\n']
          ∧ (∃ lines : List Text,
            (run kit host words).errorOutput = lines.flatMap (fun line => line ++ ['\n'])
              ∧ List.Forall₂ (fun p line => '\n' ∉ line ∧ Tells line (.notText p))
                ((request.arrange paths).filter fun p => p.printed ≠ p.bytes) lines)
          ∧ ∀ p ∈ request.arrange paths, ¬ host.disk.Resolves p.display →
            p.printed ≠ p.bytes := by
  refine ⟨fun paths => ⟨Corpus.yields_join paths, Corpus.encode_joinPaths paths,
    fun p _ => p.isValid_printed, Path.printed_ofText⟩,
    fun host words request paths hgiven hdefault h => ?_⟩
  have hprogram := yields_program host request
  rw [Corpus.line_of_files h] at hprogram
  have hrun : run kit host words
      = .ended ((host.subscriber kit.log).addAll [] (request.events host.disk))
        (.ok (joinPaths (request.arrange paths) ++ ['\n'])) :=
    Host.run_of_given hgiven hprogram
  rw [hrun]
  refine ⟨rfl, rfl, ?_, fun p hp hunresolved hprinted => ?_⟩
  · -- of the events only the warnings are shown, and each of them is a line
    have hshown := Corpus.Request.filter_events (hlevels.shows_eq hdefault) h
    have honeLine : ∀ event ∈ (request.events host.disk).filter
        (kit.log.subscriber host.environment.log).shows, event.IsOneLine := by
      rw [hshown]
      intro event hevent
      obtain ⟨p, _, rfl⟩ := List.mem_map.mp hevent
      exact (Corpus.isPlain_notText p).isOneLine
    obtain ⟨lines, htext, hall⟩ := hlines.exists_text_eq host.environment.log honeLine
    refine ⟨lines, htext, ?_⟩
    rw [hshown, Corpus.warnings, List.forall₂_map_left_iff] at hall
    exact hall.imp fun p line hline => ⟨hline.1, hline.2.2 (Corpus.isPlain_notText p)⟩
  · -- printed as it is, the path would lead to the file that was listed
    exact hunresolved
      (Corpus.resolves_of_printed h (Corpus.Request.mem_arrange_iff.mp hp) hprinted)

/-- A corpus `c` with a file whose name is no text, and one whose name has U+FFFD in it. -/
def oddTree : FileTree where
  nodes :=
    [([[0x63]], .directory), ([[0x63], [0x73, 0xff]], .file []),
      ([[0x63], [0x74, 0xef, 0xbf, 0xbd]], .file [])]
  working := []

/-- Both are printed with U+FFFD, and there is a warning about the first. -/
theorem warnings_exact_odd :
    let host : Host := { disk := oddTree.disk, input := .ok [], environment := {} }
    plainKit.log.KnowsLevels ∧ plainKit.log.WritesLines Log.isPlainLine
      ∧ (run plainKit host [Utf8.encode "c".toList]).exitCode = 0
      ∧ (run plainKit host [Utf8.encode "c".toList]).output = "c/s\uFFFD,c/t\uFFFD\n".toList
      ∧ ∃ line, (run plainKit host [Utf8.encode "c".toList]).errorOutput = line ++ ['\n']
        ∧ '\n' ∉ line ∧ Tells line (.notText ⟨[0x63, 0x2f, 0x73, 0xff]⟩) := by
  intro host
  have hgiven : parser {} [Utf8.encode "c".toList]
      = .given { directory := .ofText "c".toList } := by decide +kernel
  have hfiles : Corpus.files host.disk (.ofText "c".toList)
      = .ok [⟨[0x63, 0x2f, 0x73, 0xff]⟩, .ofText "c/t\uFFFD".toList] := by decide +kernel
  obtain ⟨hexit, houtput, ⟨lines, herror, hall⟩, _⟩ :=
    (@warnings_exact plainKit _ Log.plainLog_knowsLevels Log.plainLog_writesLines).2 host
      [Utf8.encode "c".toList] { directory := .ofText "c".toList } _ hgiven (Or.inl rfl) hfiles
  have hwarned : ((Corpus.Request.arrange { directory := .ofText "c".toList }
      [⟨[0x63, 0x2f, 0x73, 0xff]⟩, .ofText "c/t\uFFFD".toList]).filter
        fun p => p.printed ≠ p.bytes) = [⟨[0x63, 0x2f, 0x73, 0xff]⟩] := by decide +kernel
  rw [hwarned] at hall
  refine ⟨Log.plainLog_knowsLevels, Log.plainLog_writesLines, hexit, ?_, ?_⟩
  · rw [houtput]
    decide +kernel
  · cases hall with
    | @cons _ line _ _ hline hnil =>
        cases hnil
        exact ⟨line, by rw [herror, List.flatMap_singleton], hline⟩

/-- A corpus `c` with two files: the name of the one is no text, and that of the other is what is
printed of it. -/
def twinTree : FileTree where
  nodes :=
    [([[0x63]], .directory), ([[0x63], [0x73, 0xff]], .file []),
      ([[0x63], [0x73, 0xef, 0xbf, 0xbd]], .file [])]
  working := []

/-- Both are printed as the second, so what is printed resolves, and yet there is a warning about
the first. -/
theorem warnings_twins :
    let host : Host := { disk := twinTree.disk, input := .ok [], environment := {} }
    let outcome := run plainKit host [Utf8.encode "c".toList]
    outcome.exitCode = 0 ∧ outcome.output = "c/s\uFFFD,c/s\uFFFD\n".toList
      ∧ outcome.errorOutput = ("WARN path is not valid UTF-8; printed form will not resolve "
        ++ "path=\"c/s\\xFF\"\n").toList
      ∧ ∃ paths, Corpus.files host.disk (.ofText "c".toList) = .ok paths ∧ paths.length = 2
        ∧ paths.filter (fun p => ¬ host.disk.Resolves p.display) = [] := by
  intro host outcome
  have hfiles : Corpus.files twinTree.disk (.ofText "c".toList)
      = .ok [⟨[0x63, 0x2f, 0x73, 0xff]⟩, .ofText "c/s\uFFFD".toList] := by decide +kernel
  exact ⟨by decide +kernel, by decide +kernel, by decide +kernel, _, hfiles, rfl,
    by decide +kernel⟩

end Command.CorpusTool

end DecoderKit
