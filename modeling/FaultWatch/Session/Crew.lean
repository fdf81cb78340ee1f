/-
  FaultWatch/Session/Crew.lean
  ============================
  **Several callers on one registry.**

  A registry is set up by one caller, then used by several at a time, then looked
  over by one more. Callers share the registry and nothing else: each has slots
  of its own. Where the callers use different threads, it makes no difference how
  their steps are mixed, so it is enough to let them work one after another.
-/
import FaultWatch.Session.Basic

namespace FaultWatch

structure Crew where
  /-- Done alone, before the others. -/
  setup : List Step
  workers : List (List Step)
  /-- Done alone, after the others. -/
  after : List Step

structure CrewReport where
  setup : List Turn
  workers : List (List Turn)
  after : List Turn
  final : Registry

namespace Registry

def session (r : Registry) : Session := ⟨r, []⟩

def after (r : Registry) (steps : List Step) : Registry := (r.session.run steps).registry

/-- The turns of callers who work one after another. -/
def workersTurns (r : Registry) : List (List Step) → List (List Turn)
  | [] => []
  | w :: rest => r.session.turns w :: workersTurns (r.after w) rest

/-- The registry after callers have worked one after another. -/
def afterAll (r : Registry) (workers : List (List Step)) : Registry := workers.foldl after r

def work (r : Registry) (c : Crew) : CrewReport :=
  let prepared := r.after c.setup
  let worked := prepared.afterAll c.workers
  { setup := r.session.turns c.setup
    workers := prepared.workersTurns c.workers
    after := worked.session.turns c.after
    final := worked.after c.after }

end Registry

end FaultWatch
