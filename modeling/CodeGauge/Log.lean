/-!
This module contains the lines of the log.
-/

namespace CodeGauge


/--
How much a line of the log matters.
-/
inductive LogLevel where
  | debug
  | info
  | warning
  | error
  deriving DecidableEq, Repr

namespace LogLevel

def all : List LogLevel :=
  [debug, info, warning, error]

def name : LogLevel → String
  | debug => "DEBUG"
  | info => "INFO"
  | warning => "WARNING"
  | error => "ERROR"

/--
The name in lower case.
-/
def lowerName : LogLevel → String
  | debug => "debug"
  | info => "info"
  | warning => "warning"
  | error => "error"

def ofName? (name : String) : Option LogLevel :=
  all.find? (·.name == name)

@[simp]
theorem ofName?_name (level : LogLevel) : ofName? level.name = some level := by
  cases level <;> decide

end LogLevel

/--
A line of the log.
-/
structure LogLine where
  level : LogLevel
  message : String
  deriving DecidableEq, Repr

namespace LogLine

def info (message : String) : LogLine := ⟨.info, message⟩

def warning (message : String) : LogLine := ⟨.warning, message⟩

def error (message : String) : LogLine := ⟨.error, message⟩

/--
The line as it is written.
-/
def text (line : LogLine) : String :=
  line.level.name ++ " " ++ line.message

end LogLine
end CodeGauge
