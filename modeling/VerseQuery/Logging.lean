/-
# Starting the reports

The level in the log settings is a list of directives.  Reports start once for a program: the
directives are checked, then the directory is made, and then it shows whether reports had been
started before.
-/
import VerseQuery.Logging.Filter
import VerseQuery.Query.Error
import VerseQuery.Settings

namespace VerseQuery

/-- Why reports could not be started. -/
inductive LogError where
  | invalidFilter (directive : String)
  | file (fault : FileFault)
  /-- They had been started before. -/
  | alreadyStarted
  deriving DecidableEq, Repr

/-- What came of starting the reports, and whether their directory was made. -/
structure LogStart where
  result : Except LogError Unit
  madeDirectory : Bool

namespace LogSettings

/-- Whether the directives of the settings are in order. -/
def checkFilter (s : LogSettings) : Except LogError Unit :=
  if LogFilter.isValid s.level then .ok () else .error (.invalidFilter s.level)

/-- Starts the reports.  `makeDirectory` tells what comes of making the directory, and `started`
whether reports had been started before. -/
def start (s : LogSettings) (makeDirectory : String → Except FileFault Unit) (started : Bool) :
    LogStart :=
  let last : Except LogError Unit := if started then .error .alreadyStarted else .ok ()
  match s.checkFilter, s.directory with
  | .error e, _ => ⟨.error e, false⟩
  | .ok _, none => ⟨last, false⟩
  | .ok _, some path =>
    match makeDirectory path with
    | .error fault => ⟨.error (.file fault), false⟩
    | .ok _ => ⟨last, true⟩

end LogSettings

end VerseQuery
