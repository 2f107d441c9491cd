import DecoderKit.Log.Filter
import DecoderKit.Log.Library

/-!
# A plain log

The library for logs that comes with the tools. Filters are lists of directives, and an event
is written on one line without the time.
-/

namespace DecoderKit.Log

/-- The details of an event, each behind a blank. -/
def Event.detailText (event : Event) : Text :=
  event.details.flatMap fun detail => ' ' :: detail.1.toList ++ '=' :: detail.2

/-- An event as a line of the log: its level, its message, then its details. -/
def Event.text (event : Event) : Text :=
  event.level.name.toList ++ ' ' :: event.message.toList ++ event.detailText

/-- The library of plain logs. -/
def plainLog : Library where
  Filter := Filter
  fromSetting setting := (setting.bind Utf8.decode?).bind Filter.read?
  ofWords := Filter.ofWords
  shows := Filter.shows
  write _ event := event.text ++ ['\n']

end DecoderKit.Log
