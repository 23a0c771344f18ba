/-!
# Notices

What is worth a line in the log although the work goes on.
-/

namespace SciCalc

inductive Severity where
  | warning
  | error
deriving DecidableEq, Repr

def Severity.name : Severity → String
  | warning => "WARNING"
  | error => "ERROR"

structure Notice where
  severity : Severity
  text : String
deriving DecidableEq, Repr

def Notice.line (notice : Notice) : String := s!"{notice.severity.name}: {notice.text}"

end SciCalc
