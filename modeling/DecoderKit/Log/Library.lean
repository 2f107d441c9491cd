import DecoderKit.Log.Event

/-!
# Libraries for logs

A program does not write its log itself, it hands its events to a library. The library
makes a filter of the setting that the environment has for it, and the events that the
filter shows are written in a form of its own, which may have the time in it. What the
program decides is the filter for the case that there is no setting, or none that can be
read: then warnings are shown.
-/

namespace DecoderKit.Log

/-- A library for logs. -/
structure Library where
  /-- What it makes of a setting. -/
  Filter : Type
  /-- Reads the setting of the environment. -/
  fromSetting : Option Bytes → Option Filter
  /-- Reads a filter in words, as far as it can be read. -/
  ofWords : String → Filter
  /-- Whether a filter shows an event. -/
  shows : Filter → Event → Bool
  /-- What is written of an event, when so many have been written before. -/
  write : Nat → Event → Text

/-- What becomes of the events of a run. -/
structure Subscriber where
  /-- Whether an event is shown. -/
  shows : Event → Bool
  /-- What is written of an event, when so many have been written before. -/
  write : Nat → Event → Text

/-- The filter if no setting can be read. -/
def defaultFilter : String := "warn"

/-- The subscriber that the environment asks for. -/
def Library.subscriber (library : Library) (setting : Option Bytes) : Subscriber where
  shows := library.shows ((library.fromSetting setting).getD (library.ofWords defaultFilter))
  write := library.write

/-- What has been written of a run's events, one after the other. -/
abbrev Record := List Text

/-- The record with one event more, if it is shown. -/
def Subscriber.add (subscriber : Subscriber) (record : Record) (event : Event) : Record :=
  if subscriber.shows event then record ++ [subscriber.write record.length event] else record

/-- A computation that may report events on its way. -/
abbrev Reporting := ReaderT Subscriber (StateM Record)

/-- Reports an event. -/
def report (event : Event) : Reporting Unit := do
  let subscriber ← read
  modify fun record => subscriber.add record event

end DecoderKit.Log
