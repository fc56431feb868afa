import BattleScript.Assoc
import BattleScript.Text.Basic

/-!
Log records and the levels at which they are shown.
-/
namespace BattleScript
open Text

inductive Severity where
  | debug
  | info
  | warning
deriving DecidableEq, Repr

namespace Severity

def word : Severity → Text
  | debug => "DEBUG"
  | info => "INFO"
  | warning => "WARNING"

def rank : Severity → Nat
  | debug => 10
  | info => 20
  | warning => 30

end Severity

structure LogRecord where
  severity : Severity
  source : Text
  message : Text
deriving DecidableEq, Repr

def LogRecord.text (r : LogRecord) : Text :=
  r.severity.word ++ ' ' :: r.source ++ ": " ++ r.message

def thresholdOf? (level : Text) : Option Nat :=
  Assoc.get? level [
    ("CRITICAL", 50), ("FATAL", 50), ("ERROR", 40), ("WARNING", 30), ("WARN", 30), ("INFO", 20),
    ("DEBUG", 10), ("NOTSET", 0)]

end BattleScript
