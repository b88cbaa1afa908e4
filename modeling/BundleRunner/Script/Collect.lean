import BundleRunner.Script.Perform
import BundleRunner.Session

namespace BundleRunner

/-!
# What a call leaves behind

After each call on the session of a scripted callback one can see the actions that were run and the
records that reached the outputs.

* `Session.collect` — read both, and start again from nothing.
-/

/-- What is to be seen after a call. -/
structure Collection where
  phase : Option BundlePhase
  trace : List TraceLine
  accepted : Router.Accepted String

namespace Runner

/-- Forget the actions that were run so far. -/
def turnPage (r : Runner String String Notebook) : Runner String String Notebook :=
  r.mapState Notebook.turnPage

end Runner

namespace Session

/-- Read what was left behind since the last time. -/
def collect (s : Session String String Notebook) :
    Session String String Notebook × Collection :=
  let taken := s.runner.run.router.takeAccepted
  let runner := (s.runner.mapRun fun run => { run with router := taken.2 }).turnPage
  ({ s with runner }, ⟨s.phase?, s.runner.state.trace, taken.1⟩)

end Session

end BundleRunner
