import Hotkeys.Engine.Job
import Hotkeys.Tools.Launch

/-!
# Running jobs

Jobs are run by the programs of the system.
-/

set_option autoImplicit false

namespace Hotkeys.Engine

/-- Runs a job: how it failed, if it did, and the files as it left them. -/
def Job.run (job : Job) (env : Host.Environment) (files : Host.Files) :
    Option CommandError × Host.Files :=
  job.runBy Tools.launch env files

end Hotkeys.Engine
