import DecoderKit.Command.PlainKit
import DecoderKit.Command.TableTool
import DecoderKit.Proofs.Command.Input
import DecoderKit.Proofs.Command.Run
import DecoderKit.Proofs.Table.TwoForms

/-!
# Runs of the table tool

A run asks for a conversion of one text. It prints all that the conversion gives or it
prints nothing, and then it says what has gone wrong first: that the input cannot be had,
that it is no table, or that a row of it does not fit. The length of a table is reported
when it has been read, whatever becomes of it then.

Which words ask for a conversion is for the parser to say. Those that it refuses, or takes
for a call for help, do not come to a conversion.
-/

namespace DecoderKit.Command.TableTool

open Log (Yields)

/-- The text that is to be converted. -/
inductive IsInput (host : Host) : Option Path → Text → Prop where
  | predefined : IsInput host none Table.offsetCodeText
  | source {path : Path} {t : Text} : host.source path = .ok (Utf8.encode t) →
      IsInput host (some path) t

/-- What is reported of a request that fails, and the message about the first failure. -/
inductive FirstFailure (host : Host) (request : Request) : List Log.Event → Text → Prop where
  | reading {path : Path} {error : IoError} : request.input = some path →
      Lacks (host.source path) error →
      FirstFailure host request [] (failureText (readingOperation path) path error)
  | parsing {t : Text} {fault : Fault} : IsInput host request.input t →
      Table.read t = .error fault →
      FirstFailure host request [] ("parsing table: ".toList ++ fault.hint)
  | width {t : Text} {rows : List Row} {fault : Fault} : IsInput host request.input t →
      Table.read t = .ok rows →
      Table.checkWidth rows request.style.width = .error fault →
      FirstFailure host request [.tableRead rows.length]
        ("formatting table: ".toList ++ fault.hint)

/-- The events of reading a table. -/
def tableEvents (t : Text) : List Log.Event :=
  match Table.read t with
  | .error _ => []
  | .ok rows => [.tableRead rows.length]

/-- What is made of a text. -/
def answer (kit : Kit) (request : Request) (t : Text) : Except Diagnosis Text :=
  match Table.read t with
  | .error fault => .error (.ofFault "parsing table" fault)
  | .ok rows => render kit request rows

/-- The events of a run, and what it comes to. -/
def resultOf (kit : Kit) (host : Host) (request : Request) :
    List Log.Event × Except Diagnosis Text :=
  match text host request with
  | .error diagnosis => ([], .error diagnosis)
  | .ok t => (tableEvents t, answer kit request t)

variable {kit : Kit} {host : Host} {words : List Bytes} {request : Request} {t o : Text}
  {rows : List Row} {fault : Fault}

/-! ## What is reported -/

theorem yields_readTable (t : Text) : Yields (readTable t) (tableEvents t) (Table.read t) := by
  rw [readTable, tableEvents]
  cases Table.read t with
  | error fault => exact .pure _
  | ok rows => exact .cons (.pure _)

/-- **A run reports what it has read, and comes to what is rendered of it.** -/
theorem yields_program (kit : Kit) (host : Host) (request : Request) :
    Yields (program kit host request) (resultOf kit host request).1
      (resultOf kit host request).2 := by
  rw [program, resultOf]
  cases text host request with
  | error diagnosis => exact .pure _
  | ok t =>
      -- rendering reports nothing, so the events are those of reading
      have hread := yields_readTable t
      simp only [answer]
      cases htable : Table.read t with
      | error fault =>
          rw [htable] at hread
          exact hread.quiet (.pure _)
      | ok rows =>
          rw [htable] at hread
          exact hread.quiet (.pure _)

theorem run_of_given (hgiven : kit.tableParser host.environment words = .given request) :
    run kit host words
      = .ended ((host.subscriber kit.log).addAll [] (resultOf kit host request).1)
        (resultOf kit host request).2 :=
  Host.run_of_given hgiven (yields_program kit host request)

/-! ## The text -/

theorem text_eq_ok_iff : text host request = .ok t ↔ IsInput host request.input t := by
  rw [text]
  cases request.input with
  | none =>
      refine ⟨fun h => Except.ok.inj h ▸ .predefined, fun h => ?_⟩
      cases h
      rfl
  | some path =>
      rw [Host.read_ok_iff]
      refine ⟨fun h => .source h, fun h => ?_⟩
      cases h with
      | source h => exact h

theorem text_eq_error_iff {diagnosis : Diagnosis} : text host request = .error diagnosis
    ↔ ∃ path error, request.input = some path ∧ Lacks (host.source path) error ∧ diagnosis =
      { message := failureText (readingOperation path) path error
        source := some error.text } := by
  rw [text]
  cases request.input with
  | none => simp
  | some path => simp [Host.read_error_iff]

/-! ## The output -/

@[simp] theorem Request.conversion_json (request : Request) :
    request.conversion.json = request.json := rfl

@[simp] theorem Request.conversion_style (request : Request) :
    request.conversion.style = request.style := rfl

/-- What is written is printed, and JSON with a line feed. -/
theorem render_of_written
    (h : request.conversion.writeUsing kit.recordWriter kit.jsonPrinter rows = .ok o) :
    render kit request rows = .ok (if request.json then o ++ ['\n'] else o) := by
  rw [Table.Conversion.writeUsing, Request.conversion_json, Request.conversion_style] at h
  rw [render]
  by_cases hjson : request.json = true
  · rw [if_pos hjson] at h
    rw [if_pos hjson, if_pos hjson]
    -- the check has passed, or nothing would have been written
    cases hcheck : Table.checkWidth rows request.style.width with
    | error fault => exact absurd h (by simp [hcheck])
    | ok _ =>
        simp only [hcheck] at h
        simp only [h]
  · rw [if_neg hjson] at h
    rw [if_neg hjson, if_neg hjson, h]

/-- Rows are refused before anything is written of them, in both forms for the same fault. -/
theorem render_of_checkWidth (h : Table.checkWidth rows request.style.width = .error fault) :
    render kit request rows = .error (.ofFault "formatting table" fault) := by
  rw [render]
  by_cases hjson : request.json = true
  · rw [if_pos hjson, h]
  · simp only [if_neg hjson, Table.writeWith, h]

theorem resultOf_of_converted (hinput : IsInput host request.input t)
    (h : request.conversion.convertWith kit.recordWriter kit.jsonPrinter t = .ok o) :
    ∃ rows, Table.read t = .ok rows ∧ resultOf kit host request
      = ([.tableRead rows.length], .ok (if request.json then o ++ ['\n'] else o)) := by
  rw [Table.Conversion.convertWith] at h
  cases hread : Table.read t with
  | error fault => exact absurd h (by simp [hread])
  | ok rows =>
      rw [hread] at h
      refine ⟨rows, rfl, ?_⟩
      simp only [resultOf, text_eq_ok_iff.mpr hinput, tableEvents, answer, hread,
        render_of_written h]

theorem resultOf_of_failure (kit : Kit) {events : List Log.Event} {message : Text}
    (h : FirstFailure host request events message) :
    ∃ source, resultOf kit host request = (events, .error { message, source }) := by
  -- each failure is met at its place, behind what has gone well
  cases h with
  | @reading path error hpath hlacks =>
      have htext := text_eq_error_iff.mpr ⟨path, error, hpath, hlacks, rfl⟩
      exact ⟨some error.text, by simp only [resultOf, htext]⟩
  | @parsing t fault hinput hread =>
      refine ⟨some fault.message, ?_⟩
      simp only [resultOf, text_eq_ok_iff.mpr hinput, tableEvents, answer, hread]
      rfl
  | @width t rows fault hinput hread hcheck =>
      refine ⟨some fault.message, ?_⟩
      simp only [resultOf, text_eq_ok_iff.mpr hinput, tableEvents, answer, hread,
        render_of_checkWidth hcheck]
      rfl

/-- Where no text is converted, something goes wrong first. Writing and printing do not. -/
theorem exists_firstFailure (hw : kit.recordWriter.IsVerbatim) (hp : kit.jsonPrinter.IsIndenting)
    (h : ¬ ∃ t o, IsInput host request.input t
      ∧ request.conversion.convertWith kit.recordWriter kit.jsonPrinter t = .ok o) :
    ∃ events message, FirstFailure host request events message := by
  cases htext : text host request with
  | error diagnosis =>
      obtain ⟨path, error, hpath, hlacks, _⟩ := text_eq_error_iff.mp htext
      exact ⟨_, _, .reading hpath hlacks⟩
  | ok t =>
      have hinput := text_eq_ok_iff.mp htext
      cases hconvert : request.conversion.convertWith kit.recordWriter kit.jsonPrinter t with
      | ok o => exact absurd ⟨t, o, hinput, hconvert⟩ h
      | error fault =>
          -- lawful writers and printers do not fail, so it is the rows or their width
          rw [Table.Conversion.convertWith_eq_convert hw hp] at hconvert
          rcases Table.Conversion.convert_eq_error_iff.mp hconvert with
            hread | ⟨rows, hread, hcheck⟩
          · exact ⟨_, _, .parsing hinput hread⟩
          · exact ⟨_, _, .width hinput hread hcheck⟩

/-- Either a text is converted or something goes wrong. -/
theorem not_converted_iff (hw : kit.recordWriter.IsVerbatim) (hp : kit.jsonPrinter.IsIndenting) :
    (¬ ∃ t o, IsInput host request.input t
        ∧ request.conversion.convertWith kit.recordWriter kit.jsonPrinter t = .ok o)
      ↔ ∃ events message, FirstFailure host request events message := by
  refine ⟨exists_firstFailure hw hp, ?_⟩
  rintro ⟨events, message, hfailure⟩ ⟨t, o, hinput, hconvert⟩
  obtain ⟨source, hfailed⟩ := resultOf_of_failure kit hfailure
  obtain ⟨rows, _, hconverted⟩ := resultOf_of_converted hinput hconvert
  -- a run comes to one result
  rw [hfailed] at hconverted
  exact absurd (congrArg Prod.snd hconverted) (by simp)

/-- **A run prints all or nothing.** When the words ask for a conversion of a text and it
succeeds, the output is what the conversion gives, and JSON ends with a line feed. Otherwise
something has gone wrong; then nothing is printed, and what is logged is followed by the message
about the first failure. Words that are misused are refused without an output. -/
theorem run_allOrNothing (hw : kit.recordWriter.IsVerbatim) (hp : kit.jsonPrinter.IsIndenting)
    (host : Host) (words : List Bytes) :
    (∀ request, kit.tableParser host.environment words = .given request →
      (∀ t o, IsInput host request.input t →
        request.conversion.convertWith kit.recordWriter kit.jsonPrinter t = .ok o →
        (run kit host words).exitCode = 0
          ∧ (run kit host words).output = (if request.json then o ++ ['\n'] else o)
          ∧ ∃ rows, Table.read t = .ok rows ∧ (run kit host words).errorOutput
            = (host.subscriber kit.log).text [.tableRead rows.length])
        ∧ ((¬ ∃ t o, IsInput host request.input t
            ∧ request.conversion.convertWith kit.recordWriter kit.jsonPrinter t = .ok o)
          ↔ ∃ events message, FirstFailure host request events message)
        ∧ ∀ events message, FirstFailure host request events message →
          (run kit host words).exitCode = 1 ∧ (run kit host words).output = []
            ∧ (run kit host words).errorOutput
              = (host.subscriber kit.log).text events ++ message ++ ['\n'])
      ∧ ∀ usage, kit.tableParser host.environment words = .misused usage →
        (run kit host words).exitCode = 2 ∧ (run kit host words).output = [] := by
  refine ⟨fun request hgiven => ⟨fun t o hinput hconvert => ?_, not_converted_iff hw hp,
    fun events message hfailure => ?_⟩, fun usage hmisused => ?_⟩
  · obtain ⟨rows, hread, hresult⟩ := resultOf_of_converted hinput hconvert
    rw [run_of_given hgiven, hresult]
    exact ⟨rfl, rfl, rows, hread, rfl⟩
  · obtain ⟨source, hresult⟩ := resultOf_of_failure kit hfailure
    rw [run_of_given hgiven, hresult]
    exact ⟨rfl, rfl, rfl⟩
  · rw [run, Host.run_of_misused hmisused]
    exact ⟨rfl, rfl⟩

/-- The first row fits, and is not printed either. The standard input may be a directory. And JSON
has no header. -/
theorem run_allOrNothing_late :
    let host := bareHost (.ok (Utf8.encode "0 0 5 0\n300 1 4 0\n".toList))
    let host' := bareHost (.error .isDirectory)
    let words := [Utf8.encode "--strict".toList, Utf8.encode "--input=-".toList]
    Table.recordWriter.IsVerbatim ∧ Table.jsonPrinter.IsIndenting
      ∧ (run plainKit host words).exitCode = 1 ∧ (run plainKit host words).output = []
      ∧ (run plainKit host words).errorOutput
        = ("formatting table: line 2: state 300 or baseline 0 does not fit in two hex digits. "
          ++ "Each row needs four non-negative integers.\n").toList
      ∧ (run plainKit host' words).exitCode = 1 ∧ (run plainKit host' words).output = []
      ∧ (run plainKit host' words).errorOutput
        = ("Error reading '-': Is a directory (os error 21). "
          ++ "Check the path and try again.\n").toList
      ∧ (run plainKit host [Utf8.encode "--json".toList, Utf8.encode "--header".toList]).exitCode
        = 2 := by
  intro host host' words
  let request : Request := { input := some (.ofText "-".toList), strict := true }
  have hw := Table.recordWriter_isVerbatim
  have hp := Table.jsonPrinter_isIndenting
  have hgiven : parser {} words = .given request := by decide +kernel
  have hsource : host.source (.ofText "-".toList)
      = .ok (Utf8.encode "0 0 5 0\n300 1 4 0\n".toList) := rfl
  have hread : Table.read "0 0 5 0\n300 1 4 0\n".toList
      = .ok [⟨0, 0, 5, 0⟩, ⟨300, 1, 4, 0⟩] := by decide +kernel
  have hcheck : Table.checkWidth [⟨0, 0, 5, 0⟩, ⟨300, 1, 4, 0⟩] .strict
      = .error (.malformedRow 2 (.tooWide 300 0)) := by decide +kernel
  have hwide : FirstFailure host request _ _ := .width (.source hsource) hread hcheck
  have hlacking : FirstFailure host' request _ _ := .reading rfl (.unreadable rfl)
  have hmisused : parser {} [Utf8.encode "--json".toList, Utf8.encode "--header".toList]
      = .misused usage := by decide +kernel
  obtain ⟨hlate, _⟩ := @run_allOrNothing plainKit hw hp host words
  obtain ⟨_, hrefused⟩ := @run_allOrNothing plainKit hw hp host
    [Utf8.encode "--json".toList, Utf8.encode "--header".toList]
  obtain ⟨hlacks, _⟩ := @run_allOrNothing plainKit hw hp host' words
  obtain ⟨hexit, houtput, herror⟩ := (hlate request hgiven).2.2 _ _ hwide
  obtain ⟨hexit', houtput', herror'⟩ := (hlacks request hgiven).2.2 _ _ hlacking
  refine ⟨hw, hp, hexit, houtput, ?_, hexit', houtput', ?_, (hrefused _ hmisused).1⟩
  · rw [herror]
    decide +kernel
  · rw [herror']
    decide +kernel

end DecoderKit.Command.TableTool
