/-!
# Logs

Each part of the library reports what it does under its own name and at a level. A log that is set to a
threshold keeps the entries at its level and above.
-/

namespace BotApi

/-- How much an entry matters. -/
inductive Level
  | debug | info | warning | error | critical
  deriving DecidableEq

namespace Level

/-- The name of a level. -/
def name : Level → String
  | .debug => "DEBUG"
  | .info => "INFO"
  | .warning => "WARNING"
  | .error => "ERROR"
  | .critical => "CRITICAL"

/-- The weight of a level. -/
def weight : Level → Nat
  | .debug => 10
  | .info => 20
  | .warning => 30
  | .error => 40
  | .critical => 50

end Level

/-- A threshold: a level, or none, which lets everything pass. -/
inductive Threshold
  | all
  | from (level : Level)
  deriving DecidableEq

namespace Threshold

/-- The names that a threshold goes by. Some levels have two. -/
def names : List (String × Threshold) :=
  [("NOTSET", .all), ("DEBUG", .from .debug), ("INFO", .from .info), ("WARN", .from .warning),
    ("WARNING", .from .warning), ("ERROR", .from .error), ("CRITICAL", .from .critical),
    ("FATAL", .from .critical)]

/-- The threshold of a name. -/
def ofName? (name : String) : Option Threshold := names.lookup name

/-- The name of a threshold. -/
def name : Threshold → String
  | .all => "NOTSET"
  | .from level => level.name

/-- Whether an entry of the level passes. -/
def admits : Threshold → Level → Bool
  | .all, _ => true
  | .from least, level => least.weight ≤ level.weight

end Threshold

/-- The parts of the library that report. -/
inductive Reporter
  | resolver | generator | emitter | encoder | decoder | client
  deriving DecidableEq

/-- The name that a part reports under. -/
def Reporter.name : Reporter → String
  | .resolver => "botschema.compiler.resolver"
  | .generator => "botschema.compiler.generator"
  | .emitter => "botschema.compiler.emitter"
  | .encoder => "botschema.runtime.encoder"
  | .decoder => "botschema.runtime.decoder"
  | .client => "botschema.runtime.client"

/-- An entry of a log. -/
structure LogEntry where
  level : Level
  reporter : Reporter
  message : String

/-- A result and the entries that were made on the way to it. -/
structure Logged (α : Type) where
  result : α
  entries : List LogEntry

namespace Logged

/-- The entries that pass a threshold. -/
def visible {α : Type} (threshold : Threshold) (x : Logged α) : List LogEntry :=
  x.entries.filter fun e => threshold.admits e.level

/-- The result alone, with the entries that were made before. -/
def after {α : Type} (earlier : List LogEntry) (x : Logged α) : Logged α :=
  { x with entries := earlier ++ x.entries }

end Logged

end BotApi
