import DecoderKit.Proofs.Json.Reading
import DecoderKit.Proofs.Sweep
import DecoderKit.Table.Json

/-!
# Rows are taken back from their JSON

A printer of JSON that lays plain values out on lines never fails on rows, since their
keys are plain and their values are numbers. Its text is a JSON text of the array of the
rows' objects, so a reader of JSON finds that array, and in each object the row with the
numbers under its four keys.
-/

namespace DecoderKit

namespace Row

/-- The keys of a row's object. -/
def keys : List Text :=
  ["state".toList, "symbol".toList, "num_bits".toList, "baseline".toList]

/-- The number of a column that a value is. -/
def columnOf? : JsonValue → Option UInt32
  | .number n => if 0 ≤ n ∧ n ≤ columnBound then some (UInt32.ofNat n.toNat) else none
  | _ => none

/-- The row that a value is the object of. -/
def ofJson? : JsonValue → Option Row
  | .object members =>
    if members.map Prod.fst = keys then
      match members.map fun member => columnOf? member.2 with
      | [some state, some symbol, some bits, some baseline] =>
        some { state, symbol, bits, baseline }
      | _ => none
    else none
  | _ => none

theorem columnOf?_number (v : UInt32) : columnOf? (.number v.toNat) = some v := by
  have hle : (v.toNat : Int) ≤ columnBound := Int.ofNat_le.mpr (toNat_le_columnBound v)
  rw [columnOf?, if_pos ⟨Int.natCast_nonneg _, hle⟩, Int.toNat_natCast]
  exact congrArg some UInt32.ofNat_toNat

theorem ofJson?_toJson (row : Row) : ofJson? row.toJson = some row := by
  simp only [toJson, ofJson?, keys, List.map_cons, List.map_nil, columnOf?_number, if_true]

theorem isPlain_toJson (row : Row) : JsonText.IsPlain row.toJson := by
  refine .object (fun member hmember => ?_) fun member hmember => ?_
  · -- the keys are fixed, so that they are plain is a matter of looking at them
    have hkey : member.1 ∈ keys := List.mem_map_of_mem (f := Prod.fst) hmember
    have hbare : (keys.all fun key => key.all JsonText.isBare) = true := by decide
    exact List.all_eq_true.mp (List.all_eq_true.mp hbare member.1 hkey)
  · simp only [List.mem_cons, List.not_mem_nil, or_false] at hmember
    rcases hmember with rfl | rfl | rfl | rfl <;> exact .number _

end Row

namespace Table

/-- A printer that lays plain values out on lines and does not fail on them. -/
def JsonPrinter.IsIndenting (printer : JsonPrinter) : Prop :=
  ∀ v, JsonText.IsPlain v → printer v = .ok (v.layOut 0)

theorem jsonPrinter_isIndenting : jsonPrinter.IsIndenting := fun _ _ => rfl

/-- The rows that a JSON text is of. -/
def ofJson? (t : Text) : Option (List Row) :=
  match JsonText.read? t with
  | some (.array items) => items.mapM Row.ofJson?
  | _ => none

theorem isPlain_toJson (rows : List Row) : JsonText.IsPlain (toJson rows) := by
  refine .array fun item hitem => ?_
  obtain ⟨row, _, rfl⟩ := List.mem_map.mp hitem
  exact row.isPlain_toJson

theorem writeJsonWith_eq {printer : JsonPrinter} (hp : printer.IsIndenting) (rows : List Row) :
    writeJsonWith printer rows = .ok (writeJson rows) := by
  rw [writeJsonWith, hp _ (isPlain_toJson rows), writeJson]

theorem isJson_writeJson (rows : List Row) : JsonText.IsJson (writeJson rows) (toJson rows) :=
  JsonText.spells_layOut (isPlain_toJson rows) 0

theorem ofJson?_writeJson (rows : List Row) : ofJson? (writeJson rows) = some rows := by
  rw [ofJson?, writeJson, JsonText.read?_layOut (isPlain_toJson rows)]
  exact mapM_map_eq_some Row.ofJson?_toJson rows

/-- **JSON loses nothing.** Rows are always written, and as a JSON text of one array. It has an
object for each row, in order, with the numbers of the row under its four keys. The rows are
taken back from the text, so no two lists of rows have one text. -/
theorem writeJsonWith_lossless {printer : JsonPrinter} (hp : printer.IsIndenting) :
    (∀ rows, ∃ t objects, writeJsonWith printer rows = .ok t
        ∧ objects = rows.map (fun row => JsonValue.object
          [("state".toList, .number row.state.toNat), ("symbol".toList, .number row.symbol.toNat),
            ("num_bits".toList, .number row.bits.toNat),
            ("baseline".toList, .number row.baseline.toNat)])
        ∧ JsonText.IsJson t (.array objects) ∧ JsonText.read? t = some (.array objects)
        ∧ ofJson? t = some rows)
      ∧ ∀ rows rows', writeJsonWith printer rows = writeJsonWith printer rows' → rows = rows' := by
  refine ⟨fun rows => ?_, fun rows rows' heq => ?_⟩
  · have hjson := isJson_writeJson rows
    exact ⟨_, _, writeJsonWith_eq hp rows, rfl, hjson, JsonText.read?_eq_some_iff.mpr hjson,
      ofJson?_writeJson rows⟩
  · -- the one text is taken back as both lists
    rw [writeJsonWith_eq hp, writeJsonWith_eq hp] at heq
    have hback := ofJson?_writeJson rows
    rw [Except.ok.inj heq, ofJson?_writeJson rows'] at hback
    exact (Option.some.inj hback).symm

/-- Two rows, with a comma between their objects. -/
theorem writeJsonWith_lossless_pair :
    jsonPrinter.IsIndenting
      ∧ writeJsonWith jsonPrinter [⟨0, 0, 5, 0⟩, ⟨300, 1, 4, 4294967295⟩]
        = .ok ("[\n  \x7b\n    \"state\": 0,\n    \"symbol\": 0,\n    \"num_bits\": 5,\n"
          ++ "    \"baseline\": 0\n  \x7d,\n  \x7b\n    \"state\": 300,\n    \"symbol\": 1,\n"
          ++ "    \"num_bits\": 4,\n    \"baseline\": 4294967295\n  \x7d\n]").toList
      ∧ ofJson? (writeJson [⟨0, 0, 5, 0⟩, ⟨300, 1, 4, 4294967295⟩])
        = some [⟨0, 0, 5, 0⟩, ⟨300, 1, 4, 4294967295⟩] := by
  have hwritten : writeJsonWith jsonPrinter [⟨0, 0, 5, 0⟩, ⟨300, 1, 4, 4294967295⟩]
      = .ok (writeJson [⟨0, 0, 5, 0⟩, ⟨300, 1, 4, 4294967295⟩]) := rfl
  obtain ⟨t, _, hwrite, _, _, _, hback⟩ := (writeJsonWith_lossless jsonPrinter_isIndenting).1
    [⟨0, 0, 5, 0⟩, ⟨300, 1, 4, 4294967295⟩]
  rw [hwritten] at hwrite
  rw [← Except.ok.inj hwrite] at hback
  exact ⟨jsonPrinter_isIndenting, by decide +kernel, hback⟩

end Table

end DecoderKit
