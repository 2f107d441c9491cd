import DecoderKit.Command.Outcome
import DecoderKit.Proofs.Log.Reporting

/-!
# How a run ends

The words decide whether a program runs at all. If it does, the run ends as the program comes to
its result, and all that is written of its events stands in front of the diagnosis.
-/

namespace DecoderKit.Command

open Log (Yields)

variable {α : Type} {host : Host} {library : Log.Library} {parser : Parser α}
  {program : α → Log.Reporting (Except Diagnosis Text)} {words : List Bytes} {arguments : α}
  {events : List Log.Event} {result : Except Diagnosis Text} {t : Text}

/-- A host without files, for runs that look at no more than their input. -/
def bareHost (input : Except IoError Bytes) : Host where
  disk :=
    { entries := fun _ => .error .noEntry
      kind := fun _ => .error .noEntry
      content := fun _ => .error .noEntry }
  input := input
  environment := {}

/-- What becomes of the events of a run on a host. -/
def Host.subscriber (host : Host) (library : Log.Library) : Log.Subscriber :=
  library.subscriber host.environment.log

theorem Host.run_of_given (hgiven : parser host.environment words = .given arguments)
    (hprogram : Yields (program arguments) events result) :
    host.run library parser program words
      = .ended ((host.subscriber library).addAll [] events) result := by
  have hrun := hprogram (host.subscriber library) []
  rw [Host.subscriber] at hrun
  rw [Host.run, hgiven, Host.subscriber]
  simp only [hrun]

theorem Host.run_of_help (hhelp : parser host.environment words = .help t) :
    host.run library parser program words = ⟨0, t, []⟩ := by
  rw [Host.run, hhelp]

theorem Host.run_of_misused (hmisused : parser host.environment words = .misused t) :
    host.run library parser program words = ⟨2, [], t⟩ := by
  rw [Host.run, hmisused]

end DecoderKit.Command
