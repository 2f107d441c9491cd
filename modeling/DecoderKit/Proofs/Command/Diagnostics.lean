import DecoderKit.Command.Tool
import DecoderKit.Proofs.Command.DumpRun
import DecoderKit.Proofs.Command.TableRun
import DecoderKit.Proofs.Corpus.Warnings

/-!
# Diagnostics are apart from results

Events are reported in the loops that compute a result, by programs that are handed whatever makes
a record of them. A program could look at that. Since it yields its result, it does not, so two
runs that differ in the library for logs or in its setting come to the same (`SameButLogged`). A
library may write differently from one run to the next, as if it has the time in its lines.

What is said of a failure stands behind the log, and it is found again where the log is written on
lines: without the lines of the log, the rest is the same. That is so for the events of a run that
fails, unless the directory to be listed has a line feed in its name and makes two lines of one
(`diagnostics_mixed`).

The variable for the corpus stands in for a directory that the words do not give, so it does not
matter to a run that is given one. Help is another matter, since it shows the variable.
-/

namespace DecoderKit.Command

open Log (Event Yields)

/-- The host with another log setting. -/
def Host.withLog (host : Host) (setting : Option Bytes) : Host :=
  { host with environment := { host.environment with log := setting } }

/-- The host with another value of the corpus variable. -/
def Host.withCorpus (host : Host) (value : Option Bytes) : Host :=
  { host with environment := { host.environment with corpus := value } }

/-- The kit with another library for logs. -/
def Kit.withLibrary (kit : Kit) (library : Log.Library) : Kit := { kit with log := library }

/-- The lines of a text that are not lines of a log. -/
def withoutLog (isLogLine : Text → Bool) (t : Text) : List Text :=
  (t.splitOn '\n').filter fun line => !isLogLine line

/-- What is documented of parsers: they do not look at the environment but for the directory, if
the words alone do not say which it is. -/
structure Kit.ReadsWords (kit : Kit) (line : List Bytes → Except Stop CorpusTool.Line) : Prop where
  table : ∀ environment environment', kit.tableParser environment = kit.tableParser environment'
  dump : ∀ environment environment', kit.dumpParser environment = kit.dumpParser environment'
  corpus : ∀ environment setting,
    kit.corpusParser { environment with log := setting } = kit.corpusParser environment
  given : ∀ environment words directory sorted,
    line words = .ok { directory := some directory, sorted } →
    kit.corpusParser environment words = .given { directory, sorted }
  misused : ∀ environment words, line words = .error .misuse →
    ∃ usage, kit.corpusParser environment words = .misused usage

/-- The words give a directory, or they are misused. They do not ask for help. -/
def GivesDirectory (line : List Bytes → Except Stop CorpusTool.Line) (words : List Bytes) : Prop :=
  (∃ directory sorted, line words = .ok { directory := some directory, sorted })
    ∨ line words = .error .misuse

/-- Whatever becomes of the events of a run, it comes to the same. Those of a run that fails are
written on one line each, in this case. -/
inductive SameButLogged (oneLine : Prop) : (Log.Library → Option Bytes → Outcome) → Prop where
  | quiet {outcome : Outcome} : outcome.exitCode ≠ 1 → SameButLogged oneLine fun _ _ => outcome
  | ended {events : List Event} {result : Except Diagnosis Text} :
      (∀ diagnosis, result = .error diagnosis → oneLine → ∀ event ∈ events, event.IsOneLine) →
      SameButLogged oneLine fun library setting =>
        .ended ((library.subscriber setting).addAll [] events) result

variable {kit : Kit} {host : Host} {words : List Bytes} {isLogLine : Text → Bool} {t : Text}
  {line : List Bytes → Except Stop CorpusTool.Line} {library library' : Log.Library}
  {events : List Event} {oneLine : Prop}

/-! ## Without the lines of the log -/

theorem withoutLog_append_line {front : Text} (hfeed : '\n' ∉ front) (hlog : isLogLine front = true)
    (rest : Text) : withoutLog isLogLine (front ++ '\n' :: rest) = withoutLog isLogLine rest := by
  have hsplit : (front ++ '\n' :: rest).splitOn '\n' = front :: rest.splitOn '\n' := by
    refine List.splitOnP_append_cons_of_forall_mem (fun c hc => ?_) '\n' (by decide) rest
    exact beq_eq_false_iff_ne.mpr fun h => hfeed (h ▸ hc)
  rw [withoutLog, hsplit, List.filter_cons_of_neg (by simp [hlog]), withoutLog]

/-- **What is written of events on one line is not there without the lines of the log.** -/
theorem withoutLog_text (hlines : library.WritesLines isLogLine)
    (hevents : ∀ event ∈ events, event.IsOneLine) (setting : Option Bytes) (rest : Text) :
    withoutLog isLogLine ((library.subscriber setting).text events ++ rest)
      = withoutLog isLogLine rest := by
  obtain ⟨lines, htext, hall⟩ := hlines.exists_text_eq setting
    fun event hevent => hevents event (List.mem_filter.mp hevent).1
  rw [htext]
  clear htext
  -- line by line: each is a line of the log, so it falls away
  generalize events.filter (library.subscriber setting).shows = shown at hall
  induction hall with
  | nil => rfl
  | cons hline _ ih =>
      rw [List.flatMap_cons, List.append_assoc, List.append_assoc, List.singleton_append,
        withoutLog_append_line hline.1 hline.2.1, ih]

/-! ## Runs that differ in what becomes of their events -/

namespace SameButLogged

variable {outcome : Log.Library → Option Bytes → Outcome}

theorem result_eq (h : SameButLogged oneLine outcome) (library library' : Log.Library)
    (setting setting' : Option Bytes) :
    (outcome library setting).exitCode = (outcome library' setting').exitCode
      ∧ (outcome library setting).output = (outcome library' setting').output := by
  cases h with
  | quiet _ => exact ⟨rfl, rfl⟩
  | @ended events result _ => cases result <;> exact ⟨rfl, rfl⟩

/-- A run that fails ends with a message behind what is written of its events. -/
theorem exists_message (h : SameButLogged oneLine outcome) {setting : Option Bytes}
    (hexit : (outcome library setting).exitCode = 1) :
    ∃ events message, (oneLine → ∀ event ∈ events, event.IsOneLine) ∧ ∀ library setting,
      (outcome library setting).errorOutput
        = (library.subscriber setting).text events ++ message ++ ['\n'] := by
  cases h with
  | quiet hquiet => exact absurd hexit hquiet
  | @ended events result hline =>
      cases result with
      | ok output => exact absurd hexit (by simp [Outcome.ended])
      | error diagnosis =>
          exact ⟨events, diagnosis.message, hline diagnosis rfl, fun _ _ => rfl⟩

/-- A run of a program that yields its result, with a parser that does not know of the setting. -/
theorem of_yields {α : Type} {parser : Parser α}
    {program : α → Log.Reporting (Except Diagnosis Text)}
    (hparser : ∀ environment setting,
      parser { environment with log := setting } = parser environment)
    (hprogram : ∀ arguments, parser host.environment words = .given arguments →
      ∃ events result, Yields (program arguments) events result
        ∧ ∀ diagnosis, result = .error diagnosis → oneLine → ∀ event ∈ events, event.IsOneLine) :
    SameButLogged oneLine fun library setting =>
      (host.withLog setting).run library parser program words := by
  have hparsed : ∀ setting, parser (host.withLog setting).environment words
      = parser host.environment words := fun setting => by rw [Host.withLog, hparser]
  -- the words are read alike, so the two runs part with the program or not at all
  cases hwords : parser host.environment words with
  | help t =>
      simp only [Host.run_of_help ((hparsed _).trans hwords)]
      exact .quiet (by simp)
  | misused t =>
      simp only [Host.run_of_misused ((hparsed _).trans hwords)]
      exact .quiet (by simp)
  | given arguments =>
      obtain ⟨events, result, hyields, hline⟩ := hprogram arguments hwords
      simp only [Host.run_of_given ((hparsed _).trans hwords) hyields]
      exact .ended hline

end SameButLogged

/-! ## The events of the tools -/

/-- Numbers are written on one line. -/
theorem feed_notMem_decimal (n : Nat) : '\n' ∉ Numeral.decimal n := fun h =>
  absurd ((Numeral.isDigits_decimal n).digits _ h) (by decide)

/-- A number is all that such an event tells. -/
theorem isOneLine_of_decimal {event : Event} {name : String} {n : Nat}
    (h : event.details = [(name, Numeral.decimal n)]) : event.IsOneLine := by
  intro detail hdetail
  rw [h, List.mem_singleton] at hdetail
  rw [hdetail]
  exact feed_notMem_decimal n

theorem isOneLine_of_mem_tableEvents {event : Event} (h : event ∈ TableTool.tableEvents t) :
    event.IsOneLine := by
  rw [TableTool.tableEvents] at h
  cases hread : Table.read t with
  | error fault => exact absurd h (by simp [hread])
  | ok rows =>
      obtain rfl : event = .tableRead rows.length := by simpa [hread] using h
      exact isOneLine_of_decimal rfl

theorem isOneLine_of_mem_listEvents {event : Event} (h : event ∈ DumpTool.listEvents t) :
    event.IsOneLine := by
  rw [DumpTool.listEvents] at h
  cases hread : Dump.readList t with
  | error fault => exact absurd h (by simp [hread])
  | ok bytes =>
      obtain rfl : event = .listRead bytes.length := by simpa [hread] using h
      exact isOneLine_of_decimal rfl

/-- Where no line is printed, only the directory has been reported. -/
theorem Corpus.Request.events_of_error {request : Corpus.Request} {disk : Disk} {fault : Fault}
    (h : request.line disk = .error fault) :
    request.events disk = [.listing request.directory] := by
  rw [Corpus.Request.line, Corpus.files] at h
  rw [Corpus.Request.events]
  cases hsurvey : Corpus.survey disk request.directory with
  | error fault => rfl
  | ok entries => exact absurd h (by simp [hsurvey, Except.map])

/-- **A run comes to the same result whatever becomes of its events.** -/
theorem Tool.sameButLogged_run (hwords : kit.ReadsWords line) (tool : Tool) (host : Host)
    (words : List Bytes) :
    SameButLogged (∀ directory, tool.directory? kit host.environment words = some directory →
        '\n' ∉ directory.display)
      fun library setting => tool.run (kit.withLibrary library) (host.withLog setting) words := by
  cases tool with
  | corpus =>
      refine SameButLogged.of_yields hwords.corpus fun request hgiven =>
        ⟨_, _, CorpusTool.yields_program host request, fun diagnosis hfailed hline => ?_⟩
      -- names are reported too, but only by a run that has a line to print
      cases hprinted : request.line host.disk with
      | ok line => exact absurd hfailed (by simp [hprinted])
      | error fault =>
          have hdirectory := hline request.directory (by simp [directory?, hgiven, Parsed.given?])
          rw [Corpus.Request.events_of_error hprinted]
          simpa [Event.IsOneLine, Event.details] using hdirectory
  | table =>
      refine SameButLogged.of_yields (fun _ _ => hwords.table _ _) fun request _ =>
        ⟨_, _, TableTool.yields_program kit host request, fun _ _ _ event hevent => ?_⟩
      -- no text, no event; and of a text only the number of rows is told
      rw [TableTool.resultOf] at hevent
      cases htext : TableTool.text host request with
      | error diagnosis => exact absurd hevent (by simp [htext])
      | ok t => exact isOneLine_of_mem_tableEvents (t := t) (by simpa [htext] using hevent)
  | dump =>
      refine SameButLogged.of_yields (fun _ _ => hwords.dump _ _) fun request _ =>
        ⟨_, _, DumpTool.yields_program kit host request, fun _ _ _ event hevent => ?_⟩
      obtain ⟨input, hex⟩ := request
      rw [DumpTool.dumpOf] at hevent
      cases input with
      | none => cases hex <;> exact absurd hevent (by simp)
      | some path =>
          cases hread : host.read path with
          | error diagnosis => exact absurd hevent (by simp [hread])
          | ok t => exact isOneLine_of_mem_listEvents (t := t) (by simpa [hread] using hevent)

/-! ## The corpus variable -/

/-- A run whose parser does not look at the environment does not depend on the variable. -/
theorem Host.run_withCorpus {α : Type} {parser : Parser α}
    (hparser : ∀ environment environment', parser environment = parser environment') (host : Host)
    (program : α → Log.Reporting (Except Diagnosis Text)) (value value' : Option Bytes) :
    (host.withCorpus value).run library parser program words
      = (host.withCorpus value').run library parser program words := by
  rw [Host.run, hparser _ (host.withCorpus value').environment]
  rfl

/-- Where a directory is given or the words are misused, the variable does not matter. -/
theorem CorpusTool.result_withCorpus (hwords : kit.ReadsWords line)
    (hgives : GivesDirectory line words) (host : Host) (value value' : Option Bytes) :
    (CorpusTool.run kit (host.withCorpus value) words).exitCode
        = (CorpusTool.run kit (host.withCorpus value') words).exitCode
      ∧ (CorpusTool.run kit (host.withCorpus value) words).output
        = (CorpusTool.run kit (host.withCorpus value') words).output := by
  rcases hgives with ⟨directory, sorted, hline⟩ | hmisused
  · have hgiven := hwords.given (host.withCorpus value).environment words _ _ hline
    have hgiven' := hwords.given (host.withCorpus value').environment words _ _ hline
    rw [CorpusTool.run, CorpusTool.run, Host.run_of_given hgiven (yields_program _ _),
      Host.run_of_given hgiven' (yields_program _ _)]
    -- the outcome does not have the rest of the environment in it
    exact ⟨rfl, rfl⟩
  · -- misused in either environment, for which the usage may differ but not the exit code
    obtain ⟨usage, husage⟩ := hwords.misused (host.withCorpus value).environment words hmisused
    obtain ⟨usage', husage'⟩ := hwords.misused (host.withCorpus value').environment words hmisused
    rw [CorpusTool.run, CorpusTool.run, Host.run_of_misused husage, Host.run_of_misused husage']
    exact ⟨rfl, rfl⟩

/-- **Diagnostics never leak into results.** Whatever the library for logs and its setting are, a
run ends with the same exit code and the same output. A run that fails writes the same message
behind what is written of the same events, and without the lines of the log, what it writes is the
same, if these events have a line each. No run depends on the corpus variable but one of the corpus
tool that is not told the directory, or is asked for help. -/
theorem diagnostics_apart (hwords : kit.ReadsWords line) (tool : Tool) (words : List Bytes) :
    (∀ (host : Host) (library library' : Log.Library) (setting setting' : Option Bytes),
      let outcome := tool.run (kit.withLibrary library) (host.withLog setting) words
      let outcome' := tool.run (kit.withLibrary library') (host.withLog setting') words
      outcome.exitCode = outcome'.exitCode ∧ outcome.output = outcome'.output
        ∧ (outcome.exitCode = 1 →
          (∃ events message,
            outcome.errorOutput = (library.subscriber setting).text events ++ message ++ ['\n']
              ∧ outcome'.errorOutput
                = (library'.subscriber setting').text events ++ message ++ ['\n'])
            ∧ ∀ isLogLine, library.WritesLines isLogLine → library'.WritesLines isLogLine →
              (∀ directory, tool.directory? kit host.environment words = some directory →
                '\n' ∉ directory.display) →
              withoutLog isLogLine outcome.errorOutput
                = withoutLog isLogLine outcome'.errorOutput))
      ∧ ((tool = .corpus → GivesDirectory line words) →
        ∀ (host : Host) (value value' : Option Bytes),
          (tool.run kit (host.withCorpus value) words).exitCode
              = (tool.run kit (host.withCorpus value') words).exitCode
            ∧ (tool.run kit (host.withCorpus value) words).output
              = (tool.run kit (host.withCorpus value') words).output) := by
  refine ⟨?_, fun hgives host value value' => ?_⟩
  · intro host library library' setting setting' outcome outcome'
    have hsame := tool.sameButLogged_run hwords host words
    obtain ⟨hexit, houtput⟩ := hsame.result_eq library library' setting setting'
    refine ⟨hexit, houtput, fun hfailed => ?_⟩
    obtain ⟨events, message, honeLine, herrors⟩ := hsame.exists_message hfailed
    have herror : outcome.errorOutput
        = (library.subscriber setting).text events ++ message ++ ['\n'] := herrors library setting
    have herror' : outcome'.errorOutput
        = (library'.subscriber setting').text events ++ message ++ ['\n'] :=
      herrors library' setting'
    -- both logs fall away in front of the one message
    refine ⟨⟨events, message, herror, herror'⟩, fun isLogLine hlines hlines' hdirectory => ?_⟩
    have hevents := honeLine hdirectory
    rw [herror, herror', List.append_assoc, List.append_assoc, withoutLog_text hlines hevents,
      withoutLog_text hlines' hevents]
  · cases tool with
    | corpus => exact CorpusTool.result_withCorpus hwords (hgives rfl) host value value'
    | table =>
        have hrun : TableTool.run kit (host.withCorpus value) words
            = TableTool.run kit (host.withCorpus value') words :=
          Host.run_withCorpus hwords.table host (TableTool.program kit host) value value'
        exact ⟨congrArg Outcome.exitCode hrun, congrArg Outcome.output hrun⟩
    | dump =>
        have hrun : DumpTool.run kit (host.withCorpus value) words
            = DumpTool.run kit (host.withCorpus value') words :=
          Host.run_withCorpus hwords.dump host (DumpTool.program kit host) value value'
        exact ⟨congrArg Outcome.exitCode hrun, congrArg Outcome.output hrun⟩

theorem plainKit_readsWords : plainKit.ReadsWords CorpusTool.line where
  table _ _ := rfl
  dump _ _ := rfl
  corpus _ _ := rfl
  given environment words directory sorted h := by
    show CorpusTool.parser environment words = _
    rw [CorpusTool.parser, h]
  misused environment words h := by
    refine ⟨CorpusTool.usage, ?_⟩
    show CorpusTool.parser environment words = _
    rw [CorpusTool.parser, h]

/-- A listing that warns about a name, and a run that fails, with all shown and with a setting that
is no text. And the words name the directory, so the variable does not matter even if it is
empty. -/
theorem diagnostics_apart_odd :
    let host : Host := { disk := CorpusTool.oddTree.disk, input := .ok [], environment := {} }
    let debug := host.withLog (some (Utf8.encode "debug".toList))
    let unread := host.withLog (some [0xff])
    let words := [Utf8.encode "c".toList]
    plainKit.ReadsWords CorpusTool.line
      ∧ (CorpusTool.run plainKit debug words).errorOutput
        ≠ (CorpusTool.run plainKit unread words).errorOutput
      ∧ (CorpusTool.run plainKit debug words).output
        = (CorpusTool.run plainKit unread words).output
      ∧ (CorpusTool.run plainKit debug [Utf8.encode "d".toList]).exitCode = 1
      ∧ withoutLog Log.isPlainLine
          (CorpusTool.run plainKit debug [Utf8.encode "d".toList]).errorOutput
        = withoutLog Log.isPlainLine
          (CorpusTool.run plainKit unread [Utf8.encode "d".toList]).errorOutput
      ∧ (CorpusTool.run plainKit (host.withCorpus (some [])) words).exitCode
        = (CorpusTool.run plainKit (host.withCorpus none) words).exitCode := by
  intro host debug unread words
  have hgives : GivesDirectory CorpusTool.line words :=
    Or.inl ⟨.ofText "c".toList, false, by decide +kernel⟩
  have hdirectory : Tool.directory? .corpus plainKit host.environment [Utf8.encode "d".toList]
      = some (.ofText "d".toList) := by decide +kernel
  have hfailed : (CorpusTool.run plainKit debug [Utf8.encode "d".toList]).exitCode = 1 := by
    decide +kernel
  obtain ⟨hlog, hcorpus⟩ := diagnostics_apart plainKit_readsWords .corpus words
  obtain ⟨hlog', _⟩ :=
    diagnostics_apart plainKit_readsWords .corpus [Utf8.encode "d".toList]
  obtain ⟨_, houtput, _⟩ := hlog host plainKit.log plainKit.log
    (some (Utf8.encode "debug".toList)) (some [0xff])
  obtain ⟨_, _, hfailure⟩ := hlog' host plainKit.log plainKit.log
    (some (Utf8.encode "debug".toList)) (some [0xff])
  have hsame := (hfailure hfailed).2 Log.isPlainLine Log.plainLog_writesLines
    Log.plainLog_writesLines fun directory h => by
      rw [hdirectory] at h
      rw [← Option.some.inj h]
      decide +kernel
  exact ⟨plainKit_readsWords, by decide +kernel, houtput, hfailed, hsame,
    (hcorpus (fun _ => hgives) host (some []) none).1⟩

/-- Help shows the variable, although a directory is given. And a directory with a line feed in its
name leaves the rest of its line where all is shown. -/
theorem diagnostics_mixed :
    let host := bareHost (.ok [])
    let help := [Utf8.encode "d".toList, Utf8.encode "--help".toList]
    let words := [Utf8.encode "a\nb".toList]
    (CorpusTool.run plainKit (host.withCorpus (some [0x61])) help).exitCode = 0
      ∧ (CorpusTool.run plainKit (host.withCorpus (some [0x61])) help).output
        ≠ (CorpusTool.run plainKit (host.withCorpus (some [0x62])) help).output
      ∧ (CorpusTool.run plainKit host words).exitCode = 1
      ∧ withoutLog Log.isPlainLine (CorpusTool.run plainKit host words).errorOutput
        ≠ withoutLog Log.isPlainLine (CorpusTool.run plainKit
          (host.withLog (some (Utf8.encode "debug".toList))) words).errorOutput := by
  decide +kernel

end DecoderKit.Command
