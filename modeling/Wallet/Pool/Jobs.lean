import Wallet.Pool.Basic

/-!
# Jobs of a pool

The jobs that a pool has accepted. They start only while someone waits for the pool, in the sequence
in which they became ready; a job that has to be released first stays until then. A release is for
the jobs submitted before it. A job that breaks down gives back its slot like any other, but has not
been done.
-/

namespace Wallet

/-- What a job does. -/
inductive JobKind where
  | quick
  /-- The job ends only when its name has been released. -/
  | hold
  | breakDown
deriving DecidableEq, Repr

/-- A job by name. -/
structure PoolJob where
  kind : JobKind
  name : String
deriving DecidableEq

/-- The job once it need not wait for a release. -/
def PoolJob.freed (job : PoolJob) : PoolJob :=
  { job with kind := if job.kind = .hold then .quick else job.kind }

/-- A pool with its jobs. -/
structure Jobs where
  pool : Pool
  ready : List PoolJob
  /-- The jobs that have started and wait for their release. -/
  held : List PoolJob
  /-- The names of the jobs that have been done. -/
  ran : List String

namespace Jobs

def start (pool : Pool) : Jobs := ⟨pool, [], [], []⟩

/-- Submits a job and says whether it was accepted. -/
def submit (s : Jobs) (job : PoolJob) : Bool × Jobs :=
  match s.pool.submit? with
  | some pool => (true, { s with pool := pool, ready := s.ready ++ [job] })
  | none => (false, s)

/-- Releases the jobs of a name that have been submitted so far, whether they have started or not. A
job of that name that is submitted later needs a release of its own. -/
def release (s : Jobs) (name : String) : Jobs :=
  let free (job : PoolJob) : PoolJob := if job.name = name then job.freed else job
  { s with
    ready := s.ready.map free ++ (s.held.filter fun job => job.name = name).map free
    held := s.held.filter fun job => job.name ≠ name }

/-- Runs one job. -/
def runJob (s : Jobs) (job : PoolJob) : Jobs :=
  if job.kind = .hold then { s with held := s.held ++ [job] }
  else
    { s with
      pool := s.pool.finish
      ran := if job.kind = .breakDown then s.ran else s.ran ++ [job.name] }

/-- Waits for the pool as long as any job can run, and says whether it became idle. -/
def waitIdle (s : Jobs) : Bool × Jobs :=
  let (ticket, pool) := s.pool.startWait
  let s := { s with pool := pool }
  let s := if pool.isIdleFor ticket then s else s.ready.foldl runJob { s with ready := [] }
  (s.pool.isIdleFor ticket, { s with pool := s.pool.stopWait ticket })

end Jobs

end Wallet
