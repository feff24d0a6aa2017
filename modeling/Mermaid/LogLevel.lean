/-!
# Log levels

How serious a report has to be to be shown. The names of the levels are read in any case.
-/

namespace Mermaid

/-- A level of the log. -/
inductive LogLevel
  | notSet
  | debug
  | info
  | warning
  | error
  | critical
  deriving DecidableEq

namespace LogLevel

/-- The weight of a level. -/
def number : LogLevel → Nat
  | .notSet => 0
  | .debug => 10
  | .info => 20
  | .warning => 30
  | .error => 40
  | .critical => 50

/-- The name of a level in reports. -/
def name : LogLevel → String
  | .notSet => "NOTSET"
  | .debug => "DEBUG"
  | .info => "INFO"
  | .warning => "WARNING"
  | .error => "ERROR"
  | .critical => "CRITICAL"

/-- Whether reports of a level are shown where another level is the threshold. -/
def shows (threshold level : LogLevel) : Bool := threshold.number ≤ level.number

/-- All names that levels go by. -/
def names : List (String × LogLevel) :=
  [("NOTSET", .notSet), ("DEBUG", .debug), ("INFO", .info), ("WARN", .warning),
    ("WARNING", .warning), ("ERROR", .error), ("FATAL", .critical), ("CRITICAL", .critical)]

/-- The capital form of a character, as far as it is an ASCII letter. Outside ASCII only the dotless
i and the long s have one. -/
def capital (c : Char) : Char :=
  if c = 'ı' then 'I' else if c = 'ſ' then 'S' else c.toUpper

/-- The level with a name in any case. -/
def ofName? (s : String) : Option LogLevel :=
  (names.find? fun e => e.1.toList = s.toList.map capital).map Prod.snd

end LogLevel

end Mermaid
