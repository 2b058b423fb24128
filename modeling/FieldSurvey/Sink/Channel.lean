import FieldSurvey.Model.Progress

/-!
# Progress channels

A channel holds a limited number of events until they are taken off.  An event
that finds it full is dropped.  A fan-out hands every event to each of several
channels.
-/

namespace FieldSurvey.Sink

open Model (Progress)

/-- A bounded queue of events, the oldest one first. -/
structure Channel where
  capacity : Nat
  events : List Progress := []

namespace Channel

/-- Adds an event unless the channel is full. -/
def send (channel : Channel) (event : Progress) : Channel :=
  if channel.events.length < channel.capacity then
    { channel with events := channel.events ++ [event] }
  else channel

/-- Takes the oldest event off. -/
def drop (channel : Channel) : Channel :=
  { channel with events := channel.events.drop 1 }

end Channel

/-- Hands an event to every channel. -/
def fanOut (channels : List Channel) (event : Progress) : List Channel :=
  channels.map fun channel => channel.send event

end FieldSurvey.Sink
