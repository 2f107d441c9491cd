import DecoderKit.Proofs.Command.DumpRun
import DecoderKit.Proofs.Text.Numerals
import DecoderKit.Proofs.Text.Utf8
import DecoderKit.Proofs.Trimmed

/-!
# What a description tells of its bytes

A description is the bytes as characters, a space and their number. The characters may be
spaces and digits themselves, and may even look like a number, so it matters at which space
it is cut: the number has none in it, so it is the last one (`cutAtLast_describe`). In front
of that the code points are the bytes, and from them the bytes are known.

A printed line is known by its bytes as well as by its characters, so two runs that print
the same have shown the same dump.
-/

namespace DecoderKit.Dump

open Command
open Command.DumpTool (Shows)
open Numeral (IsDigits decimal isDigits_decimal)

/-- The text is cut at the last place that holds the character. -/
structure CutAtLast (c : Char) (t front back : Text) : Prop where
  eq : t = front ++ c :: back
  last : c ∉ back

/-- A text has one last place of a character. -/
theorem CutAtLast.unique {c : Char} {t front back front' back' : Text}
    (h : CutAtLast c t front back) (h' : CutAtLast c t front' back') :
    front = front' ∧ back = back' := by
  -- from the end, the text goes on to the first such character
  have htake : ∀ {front back : Text}, CutAtLast c t front back →
      t.reverse.takeWhile (· != c) = back.reverse := by
    intro front back h
    have hback : ∀ x ∈ back.reverse, (x != c) = true :=
      fun x hx => bne_iff_ne.mpr fun heq => h.last (heq ▸ List.mem_reverse.mp hx)
    rw [h.eq, List.reverse_append, List.reverse_cons, List.append_assoc]
    exact takeWhile_append_eq hback (by simp)
  have hback : back = back' := List.reverse_injective ((htake h).symm.trans (htake h'))
  have hfront := h.eq.symm.trans h'.eq
  rw [hback] at hfront
  exact ⟨List.append_cancel_right hfront, hback⟩

variable {bytes bytes' : Bytes}

/-! ## Bytes as characters -/

/-- The code points of the characters are the bytes. -/
theorem map_toNat_toText (bytes : Bytes) :
    (toText bytes).map Char.toNat = bytes.map UInt8.toNat := by
  rw [toText, List.map_map]
  exact List.map_congr_left fun b _ => Utf8.toNat_ofNat_byte b

theorem toText_injective (h : toText bytes = toText bytes') : bytes = bytes' := by
  have hcodes := congrArg (List.map Char.toNat) h
  rw [map_toNat_toText, map_toNat_toText] at hcodes
  exact List.map_injective_iff.mpr (fun _ _ => UInt8.toNat_inj.mp) hcodes

/-! ## The number behind -/

/-- No zero stands in front of another digit. -/
theorem decimal_eq_zero (n : Nat) (h : (decimal n).head? = some '0') : decimal n = ['0'] := by
  rw [decimal, Numeral.head?_toDigits_eq_zero_iff (by decide)] at h
  rw [h]
  rfl

theorem cutAtLast_describe (bytes : Bytes) :
    CutAtLast ' ' (describe bytes) (toText bytes) (decimal bytes.length) where
  eq := rfl
  last := fun hspace => absurd ((isDigits_decimal _).digits _ hspace) (by decide)

/-- Different bytes have different descriptions. -/
theorem eq_of_describe_eq (h : describe bytes = describe bytes') : bytes = bytes' := by
  have hcut := cutAtLast_describe bytes
  rw [h] at hcut
  exact toText_injective (hcut.unique (cutAtLast_describe bytes')).1

/-- **A description tells its bytes.** Cut at its last space, it is a text with these bytes for its
code points and their number without zeros in front. So no two byte strings are described alike, and
the lines that two runs print differ in their bytes if the dumps do. -/
theorem describe_tells :
    (∀ bytes, (∃ front back, CutAtLast ' ' (describe bytes) front back)
        ∧ ∀ front back, CutAtLast ' ' (describe bytes) front back →
          front.length = bytes.length ∧ front.map Char.toNat = bytes.map UInt8.toNat
            ∧ IsDigits back bytes.length ∧ (back.head? = some '0' → back = ['0']))
      ∧ (∀ bytes bytes', describe bytes = describe bytes' → bytes = bytes')
      ∧ ∀ (kit kit' : Kit) (host host' : Host) (words words' : List Bytes) (bytes bytes' : Bytes),
        Shows kit host words bytes → Shows kit' host' words' bytes' →
        (DumpTool.run kit host words).output = describe bytes ++ ['\n']
          ∧ (Utf8.encode (DumpTool.run kit host words).output
            = Utf8.encode (DumpTool.run kit' host' words').output → bytes = bytes') := by
  -- there is one cut, so whatever holds of the parts of a description holds of any that are found
  refine ⟨fun bytes => ⟨⟨_, _, cutAtLast_describe bytes⟩, fun front back hcut => ?_⟩,
    fun _ _ h => eq_of_describe_eq h,
    fun kit kit' host host' words words' bytes bytes' h h' => ?_⟩
  · obtain ⟨rfl, rfl⟩ := hcut.unique (cutAtLast_describe bytes)
    exact ⟨List.length_map _, map_toNat_toText bytes, isDigits_decimal _, decimal_eq_zero _⟩
  · obtain ⟨_, hrun⟩ := DumpTool.run_of_shows h
    obtain ⟨_, hrun'⟩ := DumpTool.run_of_shows h'
    rw [hrun, hrun']
    refine ⟨rfl, fun hprinted => eq_of_describe_eq ?_⟩
    exact List.append_cancel_right (Utf8.encode_injective hprinted)

/-- A dump whose description ends in what could be another one. -/
theorem describe_tells_spaced :
    let host := bareHost (.ok [])
    (∀ front back, CutAtLast ' ' "é 1 3".toList front back →
        front.map Char.toNat = [0xe9, 0x20, 0x31])
      ∧ (DumpTool.run plainKit host [Utf8.encode "--hex=e92031".toList]).output
        = "é 1 3\n".toList := by
  intro host
  have hgiven : DumpTool.parser {} [Utf8.encode "--hex=e92031".toList]
      = .given { hex := some "e92031".toList } := by decide +kernel
  have hshows : Shows plainKit host [Utf8.encode "--hex=e92031".toList] [0xe9, 0x20, 0x31] :=
    ⟨_, hgiven, .hex (by decide +kernel)⟩
  obtain ⟨hcuts, _, hruns⟩ := describe_tells
  refine ⟨fun front back hcut => ?_, (hruns plainKit plainKit host host _ _ _ _ hshows hshows).1⟩
  exact ((hcuts [0xe9, 0x20, 0x31]).2 front back hcut).2.1

end DecoderKit.Dump
