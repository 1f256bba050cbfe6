import SourceLocator.Fault

/-!
Log records and the levels that select them. What was recorded before a fault is not lost by it.
-/

set_option autoImplicit false

namespace SourceLocator

-- Severities in ascending order; `everything` selects all records and marks none.
inductive Level where
  | everything
  | debug
  | info
  | warning
  | error
  | critical
deriving DecidableEq, Repr

namespace Level

def rank : Level → Nat
  | .everything => 0
  | .debug => 10
  | .info => 20
  | .warning => 30
  | .error => 40
  | .critical => 50

def name : Level → String
  | .everything => "NOTSET"
  | .debug => "DEBUG"
  | .info => "INFO"
  | .warning => "WARNING"
  | .error => "ERROR"
  | .critical => "CRITICAL"

def names : List (String × Level) :=
  [("NOTSET", .everything), ("DEBUG", .debug), ("INFO", .info), ("WARNING", .warning),
   ("WARN", .warning), ("ERROR", .error), ("CRITICAL", .critical), ("FATAL", .critical)]

def ofName (name : Writing) : Except Fault Level :=
  match names.find? fun (known, _) => name == .ofString known with
  | some (_, level) => .ok level
  | none => .error (.unknownLevel name)

end Level

structure Record where
  level : Level
  logger : String
  message : Text
deriving DecidableEq, Repr

abbrev Log := List Record

namespace Log

def line (record : Record) : Text :=
  record.level.name.toList ++ ' ' :: record.logger.toList ++ ": ".toList ++ record.message ++ ['\n']

def emitted (threshold : Level) (log : Log) : Text :=
  (log.filter fun record => threshold.rank ≤ record.level.rank).flatMap line

end Log

-- A fault, and the records that were made before it.
structure Failure where
  fault : Fault
  log : Log

namespace Failure

def ofFault (fault : Fault) : Failure := ⟨fault, []⟩

def after (failure : Failure) (log : Log) : Failure := ⟨failure.fault, log ++ failure.log⟩

end Failure

end SourceLocator
