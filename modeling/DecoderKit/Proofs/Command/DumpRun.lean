import DecoderKit.Command.DumpTool
import DecoderKit.Command.PlainKit
import DecoderKit.Proofs.Command.Input
import DecoderKit.Proofs.Command.Run

/-!
# Runs of the dump tool

The dump that is asked for is a list behind a path, or digits, or the sample (`IsDump`). Only the
list is reported, and only when it has been read. A dump that the words ask for and that can be read
is shown (`run_of_shows`).
-/

namespace DecoderKit.Command.DumpTool

open Log (Yields)

/-- The bytes of the dump, where it can be read. -/
inductive IsDump (kit : Kit) (host : Host) : Request → Bytes → Prop where
  | sample : IsDump kit host {} Dump.sample
  | list {path : Path} {hex : Option Text} {t : Text} {bytes : Bytes} :
      host.source path = .ok (Utf8.encode t) → Dump.readList t = .ok bytes →
      IsDump kit host { input := some path, hex } bytes
  | hex {digits : Text} {bytes : Bytes} : Dump.readHexWith kit.hexDecoder digits = .ok bytes →
      IsDump kit host { hex := some digits } bytes

/-- The words ask for a dump of these bytes. -/
def Shows (kit : Kit) (host : Host) (words : List Bytes) (bytes : Bytes) : Prop :=
  ∃ request, kit.dumpParser host.environment words = .given request
    ∧ IsDump kit host request bytes

/-- The events of reading a byte list. -/
def listEvents (t : Text) : List Log.Event :=
  match Dump.readList t with
  | .error _ => []
  | .ok bytes => [.listRead bytes.length]

/-- What is made of the text of a byte list. -/
def answer (t : Text) : Except Diagnosis Text :=
  ((Dump.readList t).mapError (.ofFault "parsing byte list")).map fun bytes =>
    Dump.describe bytes ++ ['\n']

/-- The events of a run, and the bytes that it has read. -/
def dumpOf (kit : Kit) (host : Host) (request : Request) :
    List Log.Event × Except Diagnosis Bytes :=
  match request.input, request.hex with
  | some path, _ =>
    match host.read path with
    | .error diagnosis => ([], .error diagnosis)
    | .ok t => (listEvents t, (Dump.readList t).mapError (.ofFault "parsing byte list"))
  | none, some digits =>
    ([], (Dump.readHexWith kit.hexDecoder digits).mapError (.ofFault "parsing hex"))
  | none, none => ([], .ok Dump.sample)

variable {kit : Kit} {host : Host} {words : List Bytes} {request : Request} {bytes : Bytes}

/-! ## What is reported -/

theorem yields_readList (t : Text) : Yields (readList t) (listEvents t) (Dump.readList t) := by
  rw [readList, listEvents]
  cases Dump.readList t with
  | error fault => exact .pure _
  | ok bytes => exact .cons (.pure _)

theorem yields_bytes (kit : Kit) (host : Host) (request : Request) :
    Yields (DumpTool.bytes kit host request) (dumpOf kit host request).1
      (dumpOf kit host request).2 := by
  obtain ⟨input, hex⟩ := request
  rw [DumpTool.bytes, dumpOf]
  -- a path goes before digits, so the digits matter only where there is none
  cases input with
  | some path =>
      cases hread : host.read path with
      | error diagnosis =>
          simp only [hread]
          exact .pure _
      | ok t =>
          simp only [hread]
          exact (yields_readList t).quiet (.pure _)
  | none => cases hex <;> exact .pure _

/-- **A run describes the bytes that it has read.** -/
theorem yields_program (kit : Kit) (host : Host) (request : Request) :
    Yields (program kit host request) (dumpOf kit host request).1
      ((dumpOf kit host request).2.map fun bytes => Dump.describe bytes ++ ['\n']) :=
  (yields_bytes kit host request).quiet (.pure _)

theorem run_of_given (hgiven : kit.dumpParser host.environment words = .given request) :
    run kit host words
      = .ended ((host.subscriber kit.log).addAll [] (dumpOf kit host request).1)
        ((dumpOf kit host request).2.map fun bytes => Dump.describe bytes ++ ['\n']) :=
  Host.run_of_given hgiven (yields_program kit host request)

/-! ## What a run shows -/

theorem dumpOf_eq_ok_iff :
    (dumpOf kit host request).2 = .ok bytes ↔ IsDump kit host request bytes := by
  constructor
  · intro h
    obtain ⟨input, hex⟩ := request
    rw [dumpOf] at h
    cases input with
    | some path =>
        cases hread : host.read path with
        | error diagnosis => exact absurd h (by simp [hread])
        | ok t =>
            simp only [hread] at h
            exact .list (Host.read_ok_iff.mp hread) (mapError_eq_ok_iff.mp h)
    | none =>
        cases hex with
        | some digits => exact .hex (mapError_eq_ok_iff.mp h)
        | none =>
            rw [← Except.ok.inj h]
            exact .sample
  · intro h
    cases h with
    | sample => rfl
    | hex h => exact mapError_eq_ok_iff.mpr h
    | list hsource hlist =>
        simp only [dumpOf, Host.read_ok_iff.mpr hsource]
        exact mapError_eq_ok_iff.mpr hlist

/-- **A dump that is asked for and can be read is shown.** -/
theorem run_of_shows (h : Shows kit host words bytes) :
    ∃ record, run kit host words = .ended record (.ok (Dump.describe bytes ++ ['\n'])) := by
  obtain ⟨request, hgiven, hdump⟩ := h
  rw [run_of_given hgiven, dumpOf_eq_ok_iff.mpr hdump]
  exact ⟨_, rfl⟩

end DecoderKit.Command.DumpTool
