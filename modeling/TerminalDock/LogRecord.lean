/-! Records of the log: a level and a text. -/

namespace TerminalDock

inductive Level
  | debug
  | info
  | warning
  | error
  deriving DecidableEq, Repr

def Level.name : Level → String
  | .debug => "DEBUG"
  | .info => "INFO"
  | .warning => "WARNING"
  | .error => "ERROR"

structure LogRecord where
  level : Level
  message : String
  deriving DecidableEq, Repr

namespace LogRecord

def debug (message : String) : LogRecord := ⟨.debug, message⟩
def info (message : String) : LogRecord := ⟨.info, message⟩
def warning (message : String) : LogRecord := ⟨.warning, message⟩
def error (message : String) : LogRecord := ⟨.error, message⟩

end LogRecord

end TerminalDock
