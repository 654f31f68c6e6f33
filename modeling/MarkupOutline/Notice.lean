/-!
# Notices

What the library reports beside its results. A notice has a level, the channel it is reported on,
and a message.
-/

namespace MarkupOutline

/-- How serious a notice is. -/
inductive Level where
  | debug
  | warning
  deriving DecidableEq, Repr

/-- The name a level is shown under. -/
def Level.name : Level → String
  | .debug => "DEBUG"
  | .warning => "WARNING"

/-- The channel that all others stand below. -/
def rootChannel : String := "diffable_html"

/-- The full name of a channel. A name that is not the root channel and does not lie below it is
taken to be relative to it. -/
def channelName (name : String) : String :=
  if name = rootChannel || (rootChannel ++ ".").toList.isPrefixOf name.toList then name
  else rootChannel ++ "." ++ name

/-- Something reported to whoever listens. -/
structure Notice where
  level : Level
  channel : String
  message : String
  deriving DecidableEq, Repr

end MarkupOutline
