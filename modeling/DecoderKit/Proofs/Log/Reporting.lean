import Mathlib.Data.List.Forall2
import DecoderKit.Log.Library

/-!
# What a computation reports, and what it comes to

A computation that reports events is handed the subscriber, and the record that has been written
so far. It could make something else of them than report. `Yields` says that it does not: whatever
becomes of its events, it reports the same ones and comes to the same result. This holds of
reporting an event and of doing nothing, and it is kept by doing one thing after the other, so it is
shown of a loop by induction on what the loop goes through.

What a library writes is its own affair. `WritesLines` says what is documented of it: an event is
written on one line that is recognised as a line of the log, and the line tells the event.
-/

namespace DecoderKit.Log

/-- The record with more events, one after the other. -/
def Subscriber.addAll (subscriber : Subscriber) (record : Record) (events : List Event) : Record :=
  events.foldl subscriber.add record

/-- The text that is written of the events of a run. -/
def Subscriber.text (subscriber : Subscriber) (events : List Event) : Text :=
  (subscriber.addAll [] events).flatten

/-- Whatever becomes of its events, the computation reports these and comes to this result. -/
def Yields {α : Type} (run : Reporting α) (events : List Event) (a : α) : Prop :=
  ∀ subscriber record, run subscriber record = (a, subscriber.addAll record events)

/-- No value of the event ends a line. -/
def Event.IsOneLine (event : Event) : Prop := ∀ detail ∈ event.details, '\n' ∉ detail.2

/-- There are no controls in the values of the event. -/
def Event.IsPlain (event : Event) : Prop :=
  ∀ detail ∈ event.details, ∀ c ∈ detail.2, Text.isControl c = false

theorem Event.IsPlain.isOneLine {event : Event} (h : event.IsPlain) : event.IsOneLine :=
  fun detail hdetail hfeed => absurd (h detail hdetail _ hfeed) (by decide)

/-- The text tells the event: how much it matters, what has happened, and to what. -/
structure Tells (t : Text) (event : Event) : Prop where
  level : event.level.name.toList <:+: t
  message : event.message.toList <:+: t
  details : ∀ detail ∈ event.details, detail.2 <:+: t

/-- An event is written on a line of the log. A line feed among its values makes more lines of it,
and other controls need not be written as they are; without them, the line tells the event. -/
structure Library.WritesLines (library : Library) (isLogLine : Text → Bool) : Prop where
  line : ∀ n event, event.IsOneLine →
    ∃ line, library.write n event = line ++ ['\n'] ∧ '\n' ∉ line ∧ isLogLine line = true
      ∧ (event.IsPlain → Tells line event)

/-- Levels are filters in words, and a setting that is not there is not read. -/
structure Library.KnowsLevels (library : Library) : Prop where
  unset : library.fromSetting none = none
  named : ∀ event, library.shows (library.ofWords defaultFilter) event
    = decide (event.level.rank ≤ Level.warn.rank)

variable {α β : Type} {run : Reporting α} {next : α → Reporting β} {events events' : List Event}
  {event : Event} {a : α} {b : β} {subscriber : Subscriber} {isLogLine : Text → Bool}

/-! ## Doing one thing after the other -/

namespace Yields

theorem pure (a : α) : Yields (pure a) [] a := fun _ _ => rfl

theorem report (event : Event) : Yields (report event) [event] () := fun _ _ => rfl

theorem bind (h : Yields run events a) (h' : Yields (next a) events' b) :
    Yields (run >>= next) (events ++ events') b := by
  intro subscriber record
  have hrun : (run >>= next) subscriber record
      = next (run subscriber record).1 subscriber (run subscriber record).2 := rfl
  rw [hrun, h subscriber record, h' subscriber, Subscriber.addAll, Subscriber.addAll,
    ← List.foldl_append]
  rfl

/-- What comes behind without a report of its own adds nothing to the events. -/
theorem quiet (h : Yields run events a) (h' : Yields (next a) [] b) :
    Yields (run >>= next) events b := by
  have hboth := h.bind h'
  rwa [List.append_nil] at hboth

/-- An event in front of all others. -/
theorem cons {next : Unit → Reporting β} (h : Yields (next ()) events b) :
    Yields (Log.report event >>= next) (event :: events) b :=
  (Yields.report event).bind h

end Yields

/-! ## What is written -/

/-- Only a path that is no text is worth a warning. -/
theorem Event.rank_le_warn_iff :
    event.level.rank ≤ Level.warn.rank ↔ ∃ p, event = .notText p := by
  constructor
  · intro h
    cases event with
    | notText p => exact ⟨p, rfl⟩
    | _ => simp [Event.level, Level.rank] at h
  · rintro ⟨p, rfl⟩
    exact Nat.le_refl 2

/-- Without a setting that can be read, warnings are shown and what is graver. -/
theorem Library.KnowsLevels.shows_eq {library : Library} (hlevels : library.KnowsLevels)
    {setting : Option Bytes} (hdefault : setting = none ∨ library.fromSetting setting = none)
    (event : Event) : (library.subscriber setting).shows event
      = decide (event.level.rank ≤ Level.warn.rank) := by
  have hunread : library.fromSetting setting = none := by
    rcases hdefault with rfl | hunread
    · exact hlevels.unset
    · exact hunread
  rw [Library.subscriber, hunread]
  exact hlevels.named event

/-- What is written stands behind the record: a text for each event that is shown. -/
theorem Subscriber.exists_addAll_eq (subscriber : Subscriber) (events : List Event)
    (record : Record) : ∃ texts, subscriber.addAll record events = record ++ texts
      ∧ List.Forall₂ (fun event text => ∃ n, text = subscriber.write n event)
        (events.filter subscriber.shows) texts := by
  induction events generalizing record with
  | nil => exact ⟨[], (List.append_nil record).symm, .nil⟩
  | cons event events ih =>
      have hcons : subscriber.addAll record (event :: events)
          = subscriber.addAll (subscriber.add record event) events := rfl
      -- an event that is not shown leaves the record as it is
      by_cases hshows : subscriber.shows event = true
      · obtain ⟨texts, hadded, htexts⟩ :=
          ih (record ++ [subscriber.write record.length event])
        refine ⟨subscriber.write record.length event :: texts, ?_, ?_⟩
        · rw [hcons, Subscriber.add, if_pos hshows, hadded, List.append_assoc,
            List.singleton_append]
        · rw [List.filter_cons_of_pos hshows]
          exact .cons ⟨_, rfl⟩ htexts
      · obtain ⟨texts, hadded, htexts⟩ := ih record
        refine ⟨texts, ?_, ?_⟩
        · rw [hcons, Subscriber.add, if_neg hshows, hadded]
        · rwa [List.filter_cons_of_neg hshows]

/-- **Events are written on lines of the log, one for each that is shown.** -/
theorem Library.WritesLines.exists_text_eq {library : Library}
    (hlines : library.WritesLines isLogLine) (setting : Option Bytes)
    (hevents : ∀ event ∈ events.filter (library.subscriber setting).shows, event.IsOneLine) :
    ∃ lines : List Text, (library.subscriber setting).text events
        = lines.flatMap (fun line => line ++ ['\n'])
      ∧ List.Forall₂ (fun event line => '\n' ∉ line ∧ isLogLine line = true
          ∧ (event.IsPlain → Tells line event))
        (events.filter (library.subscriber setting).shows) lines := by
  obtain ⟨texts, hadded, htexts⟩ :=
    (library.subscriber setting).exists_addAll_eq events []
  rw [Subscriber.text, hadded, List.nil_append]
  -- text by text, what is written of an event is a line and its end
  generalize events.filter (library.subscriber setting).shows = shown at htexts hevents
  clear hadded
  induction htexts with
  | nil => exact ⟨[], rfl, .nil⟩
  | @cons event text shown texts htext _ ih =>
      obtain ⟨n, htext⟩ := htext
      obtain ⟨hevent, hshown⟩ := List.forall_mem_cons.mp hevents
      obtain ⟨line, hline, hfeed, hlog, htells⟩ := hlines.line n event hevent
      obtain ⟨lines, hflatten, hall⟩ := ih hshown
      have hwritten : text = line ++ ['\n'] := htext.trans hline
      refine ⟨line :: lines, ?_, .cons ⟨hfeed, hlog, htells⟩ hall⟩
      rw [List.flatten_cons, hflatten, hwritten, List.flatMap_cons]

end DecoderKit.Log
