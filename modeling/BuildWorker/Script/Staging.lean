import BuildWorker.Job.Basic

/-!
# Source staging

Before a build runs, its sources are put in place in one of three ways: nothing at all,
a tarball the server handed over, or a clone of the job's git repository.  A job names
a repository by a non-blank URL, optionally with a non-blank branch.
-/

set_option autoImplicit false

namespace BuildWorker

/-- How a build's sources are put in place. -/
inductive Staging where
  | noSource
  | tarball
  | git (url : String) (branch : Option String)
  deriving DecidableEq, Repr

/-- The staging a job asks for when no tarball was handed over: its repository if it
names one. -/
def Staging.forJob (j : Job) : Staging :=
  match j.gitUrl with
  | some url =>
      if Text.isBlankText url then .noSource
      else .git url (j.gitBranch.filter fun b => !Text.isBlankText b)
  | none => .noSource

end BuildWorker
