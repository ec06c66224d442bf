import HartTimeline.Log.Event

/-!
# Log settings

Which events are shown can be chosen by a setting beside the arguments. How it is read is left open
here: a reader tells what it cannot make sense of and comes to a choice of events. The command
relies on no more than that a reader does not end the program instead.
-/

namespace HartTimeline

/-- What comes of reading a log setting: the lines that are told about it, and which events are
shown from then on. If there is no choice of events, reading has ended the program. -/
structure LogReading where
  complaints : List Text
  shows? : Option (LogEvent → Bool)

/-- A way to read log settings. One that is no text counts as missing. All events may be wanted
whatever the setting is. -/
abbrev LogReader := Bool → Option Text → LogReading

/-- Reading a setting does not end the program. -/
def LogReader.Reads (logs : LogReader) (all : Bool) (setting : Option Text) : Prop :=
  (logs all setting).shows? ≠ none

/-- The exit status of a program that is ended by its reading of the log setting. -/
def LogReading.endedStatus : Nat := 101

/-- The events that are chosen, as lines. -/
def LogEvent.linesOf (shows : LogEvent → Bool) (es : List LogEvent) : List Text :=
  (es.filter shows).map render

end HartTimeline
