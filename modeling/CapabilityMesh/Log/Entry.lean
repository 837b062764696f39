/-
Lines of the log that operations leave behind.
-/

namespace CapabilityMesh

/-- The weight of a log line, from chatter to failure. -/
inductive LogLevel where
  | trace
  | debug
  | info
  | warn
  | error
deriving Repr, DecidableEq

namespace LogLevel

/-- All levels, lightest first. -/
def all : List LogLevel := [trace, debug, info, warn, error]

def name : LogLevel → String
  | trace => "trace"
  | debug => "debug"
  | info => "info"
  | warn => "warn"
  | error => "error"

def label : LogLevel → String
  | trace => "TRACE"
  | debug => "DEBUG"
  | info => "INFO"
  | warn => "WARN"
  | error => "ERROR"

end LogLevel

/-- One line of the log. -/
structure LogEntry where
  level : LogLevel
  text : String
deriving Repr, DecidableEq

namespace LogEntry

/-- A line with its level in front. -/
def render (entry : LogEntry) : String :=
  entry.level.label ++ " " ++ entry.text

/-- A line for those who look for a fault. -/
def debug (text : String) : LogEntry := ⟨.debug, text⟩

/-- A line for those who watch. -/
def info (text : String) : LogEntry := ⟨.info, text⟩

/-- A line about something that was put right. -/
def warn (text : String) : LogEntry := ⟨.warn, text⟩

/-- A line about something that went wrong. -/
def error (text : String) : LogEntry := ⟨.error, text⟩

end LogEntry

/-- Log lines, oldest first. -/
abbrev Log := List LogEntry

end CapabilityMesh
