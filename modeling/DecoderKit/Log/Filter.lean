import DecoderKit.Log.Directive
import DecoderKit.Text.Split

/-!
# Log filters

A filter is a list of directives, in text between commas. Of the directives that are
about an event, the one that says most about where the event comes from and what it
carries decides, and of several the last. No directive, no report.
-/

namespace DecoderKit.Log

/-- A log filter. -/
abbrev Filter := List Directive

namespace Filter

/-- The filter that reports all events up to a level. -/
def upTo (level : Level) : Filter := [⟨[], .anywhere, level.rank⟩]

/-- Reads a filter; nothing at all asks for errors. -/
def read? (t : Text) : Option Filter :=
  match piecesBetween (· == ',') t with
  | [] => some (upTo .error)
  | pieces => pieces.mapM Directive.read?

/-- Reads a filter in words. What cannot be read of it is left out. -/
def ofWords (words : String) : Filter :=
  (piecesBetween (· == ',') words.toList).filterMap Directive.read?

/-- The directive that counts so far, after another one. -/
def closer (found : Option Directive) (directive : Directive) : Option Directive :=
  match found with
  | none => some directive
  | some d => if d.yields directive then some directive else some d

/-- The directive that decides about an event. -/
def directive? (filter : Filter) (event : Event) : Option Directive :=
  (filter.filter fun directive => directive.concerns event).foldl closer none

/-- Whether an event is reported. -/
def shows (filter : Filter) (event : Event) : Bool :=
  match filter.directive? event with
  | none => false
  | some directive => directive.admits event.level

/-- A filter up to a level shows the events up to it, whatever their origin. -/
theorem shows_upTo {level : Level} {event : Event} :
    (upTo level).shows event = decide (event.level.rank ≤ level.rank) := by
  have h : Directive.concerns ⟨[], .anywhere, level.rank⟩ event = true := by
    simp [Directive.concerns, Scope.holds]
  simp [shows, directive?, upTo, h, closer, Directive.admits]

end Filter

end DecoderKit.Log
