/-!
# Logs
-/

namespace MarcLens

inductive LogLevel where
  | info
  | warning
  | error
deriving DecidableEq, Repr

def LogLevel.word : LogLevel → String
  | info => "INFO"
  | warning => "WARNING"
  | error => "ERROR"

structure LogEntry where
  level : LogLevel
  text : String
deriving DecidableEq, Repr

namespace LogEntry

def info (text : String) : LogEntry := ⟨.info, text⟩

def warning (text : String) : LogEntry := ⟨.warning, text⟩

def error (text : String) : LogEntry := ⟨.error, text⟩

end LogEntry

end MarcLens
