import DecoderKit.Command.Input
import DecoderKit.Proofs.Sweep

/-!
# What can be read from an input

A path stands for the standard input or for a file, and that decides where the bytes come
from and what a failure is called. All else is the same for both: the bytes have to be
there, and they have to be those of a text.
-/

namespace DecoderKit.Command

/-- The bytes that a path stands for. -/
def Host.source (host : Host) (path : Path) : Except IoError Bytes :=
  if path.isStandardInput then host.input else host.disk.content path

/-- What reading from a path is called. -/
def readingOperation (path : Path) : Text :=
  if path.isStandardInput then "reading".toList else "reading input file".toList

/-- What is said of an error that an operation on a path has met: the path, the error, and what to
do about it. -/
def failureText (operation : Text) (path : Path) (error : IoError) : Text :=
  "Error ".toList ++ operation ++ " '".toList ++ path.display ++ "': ".toList
    ++ error.text ++ ". ".toList ++ (Diagnosis.advice error.kind).toList

/-- There is no text in what has been read, for this reason. -/
inductive Lacks (source : Except IoError Bytes) : IoError → Prop where
  | unreadable {error : IoError} : source = .error error → Lacks source error
  | notText {bytes : Bytes} : source = .ok bytes → (∀ t, Utf8.encode t ≠ bytes) →
      Lacks source .notUtf8

variable {source : Except IoError Bytes} {host : Host} {path : Path} {error : IoError} {t : Text}

/-! ## Bytes as text -/

theorem textOf_eq_ok_iff : textOf source = .ok t ↔ source = .ok (Utf8.encode t) := by
  cases source with
  | error error => simp [textOf]
  | ok bytes =>
      rw [Except.ok.injEq, @eq_comm _ bytes, ← Utf8.decode?_eq_some_iff, textOf]
      cases Utf8.decode? bytes <;> simp

theorem textOf_eq_error_iff : textOf source = .error error ↔ Lacks source error := by
  constructor
  · intro h
    cases source with
    | error found =>
        rw [← Except.error.inj h]
        exact .unreadable rfl
    | ok bytes =>
        -- there are bytes, so it is the decoder that has refused them
        rw [textOf] at h
        cases hdecoded : Utf8.decode? bytes with
        | some t => exact absurd h (by simp [hdecoded])
        | none =>
            rw [hdecoded] at h
            rw [← Except.error.inj h]
            exact .notText rfl (Utf8.decode?_eq_none_iff.mp hdecoded)
  · rintro (hsource | ⟨hsource, hno⟩)
    · rw [hsource]
      rfl
    · rw [hsource, textOf, Utf8.decode?_eq_none_iff.mpr hno]

/-! ## Reading -/

/-- The standard input and files are read alike. -/
theorem Host.read_eq (host : Host) (path : Path) :
    host.read path = (textOf (host.source path)).mapError (.ofIo (readingOperation path) path) := by
  rw [Host.read, Host.source, readingOperation]
  by_cases hstandard : path.isStandardInput = true
  · rw [if_pos hstandard, if_pos hstandard, if_pos hstandard]
  · rw [if_neg hstandard, if_neg hstandard, if_neg hstandard, Disk.readText]

/-- **Reading succeeds on the bytes of a text, with that text.** -/
theorem Host.read_ok_iff : host.read path = .ok t ↔ host.source path = .ok (Utf8.encode t) := by
  rw [Host.read_eq, mapError_eq_ok_iff, textOf_eq_ok_iff]

/-- **Reading fails for the reason that there is no text, and says so.** -/
theorem Host.read_error_iff {diagnosis : Diagnosis} : host.read path = .error diagnosis
    ↔ ∃ error, Lacks (host.source path) error ∧ diagnosis =
      { message := failureText (readingOperation path) path error
        source := some error.text } := by
  rw [Host.read_eq, mapError_eq_error_iff]
  simp only [textOf_eq_error_iff]
  rfl

end DecoderKit.Command
