import DecoderKit.Log.PlainLog
import DecoderKit.Proofs.Log.Reporting

/-!
# The lines of a plain log

The library of plain logs is as a library for logs has to be: it knows the levels, and it writes
events on lines, which begin with the name of a level.
-/

namespace DecoderKit.Log

/-- The levels of events. -/
def levels : List Level := [.error, .warn, .info, .debug, .trace]

/-- Whether a line is one of a plain log. -/
def isPlainLine (line : Text) : Bool :=
  levels.any fun level => (level.name.toList ++ [' ']).isPrefixOf line

theorem plainLog_knowsLevels : plainLog.KnowsLevels where
  unset := rfl
  named event := by
    have hwords : Filter.ofWords defaultFilter = Filter.upTo .warn := by decide +kernel
    show (Filter.ofWords defaultFilter).shows event = _
    rw [hwords, Filter.shows_upTo]

theorem Event.infix_text {event : Event} {detail : String × Text} (h : detail ∈ event.details) :
    detail.2 <:+: event.text := by
  obtain ⟨before, after, hdetails⟩ := List.append_of_mem h
  have hdetail : detail.2 <:+: event.detailText := by
    rw [Event.detailText, hdetails, List.flatMap_append, List.flatMap_cons, ← List.append_assoc]
    refine List.IsInfix.trans ?_ (List.infix_append _ _ _)
    exact ⟨' ' :: detail.1.toList ++ ['='], [], by simp⟩
  exact hdetail.trans (List.suffix_append _ _).isInfix

theorem Event.feed_notMem_text {event : Event} (h : event.IsOneLine) : '\n' ∉ event.text := by
  have hlevel : '\n' ∉ event.level.name.toList := by cases event.level <;> decide
  have hmessage : '\n' ∉ event.message.toList := by cases event <;> simp [Event.message]
  have hnames : ∀ detail ∈ event.details, '\n' ∉ detail.1.toList := by
    cases event <;> simp [Event.details]
  simp only [Event.text, Event.detailText, List.mem_append, List.mem_cons, List.mem_flatMap,
    not_or, not_exists, not_and]
  refine ⟨⟨hlevel, by decide, hmessage⟩, fun detail hdetail => ?_⟩
  exact ⟨⟨by decide, hnames detail hdetail⟩, by decide, h detail hdetail⟩

theorem plainLog_writesLines : plainLog.WritesLines isPlainLine where
  line n event h := by
    refine ⟨event.text, rfl, Event.feed_notMem_text h, ?_, fun _ => ⟨?_, ?_, ?_⟩⟩
    · -- a line begins with its level, and that is how it is recognised
      have hlevel : event.level ∈ levels := by cases event.level <;> decide
      refine List.any_eq_true.mpr ⟨event.level, hlevel, List.isPrefixOf_iff_prefix.mpr ?_⟩
      exact ⟨event.message.toList ++ event.detailText, by simp [Event.text]⟩
    · exact ⟨[], _, by rw [List.nil_append, Event.text, List.append_assoc]⟩
    · exact ⟨event.level.name.toList ++ [' '], event.detailText, by simp [Event.text]⟩
    · exact fun detail hdetail => Event.infix_text hdetail

end DecoderKit.Log
