import Dvote.Vochain.State

/-!
# The scrutinizer

`Scrutinizer` is the indexer of `vochain/scrutinizer/scrutinizer.go`: a listener of the
vochain state with a Badger database of its own. While a block is delivered its callbacks
only append to three pools; `Commit` hands the pools to the processing that writes the
database and leaves them as they are; only `Rollback` empties them.

The processing itself (`addEntity`, `addLiveResultsProcess`, `registerPendingProcess`,
`addLiveResultsVote`, `checkFinishedProcesses`) and `isLiveResultsProcess` live in files
that are not under src: `Commit` is modelled down to the sequence of calls it makes, and
what they do to the database is a parameter.
-/

open Vochain

/-- A Badger database as the scrutinizer reads it: its keys, in the store's order, each
once. -/
structure Scrutinizer.Db where
  keys : List Bytes
  sorted : keys.Sorted Bytes.Lt

/-- `types.ScrutinizerOnProcessData`. -/
structure Scrutinizer.OnProcessData where
  entityID : Bytes
  processID : Bytes
  deriving DecidableEq, Repr

/-- The indexer: its database, the three per-block pools, and the entity count. -/
structure Scrutinizer where
  storage : Scrutinizer.Db
  votePool : List Vote
  processPool : List Scrutinizer.OnProcessData
  resultsPool : List Scrutinizer.OnProcessData
  entityCount : Int

namespace Scrutinizer

/-- A call `Commit` makes on the scrutinizer's own database. -/
inductive Job
  | checkFinishedProcesses (height : Int)
  | addEntity (entityID processID : Bytes)
  | addLiveResultsProcess (processID : Bytes)
  | registerPendingProcess (processID : Bytes) (height : Int)
  | addLiveResultsVote (v : Vote)
  deriving DecidableEq, Repr

/-- The three per-block pools, as one value. -/
structure Pools where
  processPool : List OnProcessData
  resultsPool : List OnProcessData
  votePool : List Vote
  deriving DecidableEq, Repr

instance : Append Pools :=
  ⟨fun p q => ⟨p.processPool ++ q.processPool, p.resultsPool ++ q.resultsPool,
    p.votePool ++ q.votePool⟩⟩

instance : EmptyCollection Pools := ⟨⟨[], [], []⟩⟩

@[simp] theorem Pools.append_def (p q : Pools) :
  p ++ q = ⟨p.processPool ++ q.processPool, p.resultsPool ++ q.resultsPool,
    p.votePool ++ q.votePool⟩
  := rfl

@[simp] theorem Pools.empty_def :
  (∅ : Pools) = ⟨[], [], []⟩
  := rfl

/-- The pools of a scrutinizer. -/
def pools (s : Scrutinizer) : Pools := ⟨s.processPool, s.resultsPool, s.votePool⟩

/-- `OnProcess` pools the process and its entity. -/
def onProcess (pid eid : Bytes) (s : Scrutinizer) : Scrutinizer :=
  { s with processPool := s.processPool ++ [⟨eid, pid⟩] }

/-- `OnVote` pools the vote when its process keeps live results. -/
def onVote (isLive : Except String Bool) (v : Vote) (s : Scrutinizer) : Scrutinizer :=
  match isLive with
  | .ok true => { s with votePool := s.votePool ++ [v] }
  | _ => s

/-- `OnRevealKeys` pools the process once all its keys are revealed. -/
def onRevealKeys (process : Except String Process) (pid : Bytes) (s : Scrutinizer) :
    Scrutinizer :=
  match process with
  | .ok p => if p.keyIndex < 1 then { s with resultsPool := s.resultsPool ++ [⟨p.entityID, pid⟩] }
      else s
  | .error _ => s

/-- `Rollback` empties the pools. -/
def rollback (s : Scrutinizer) : Scrutinizer :=
  { s with votePool := [], processPool := [], resultsPool := [] }

/-- The calls `Commit(height)` makes, in order: the (asynchronous) end-of-process check, then
an entity and, for a live-results process, a live tally per pooled process, a pending result
at `height + i + 1` for the `i`-th fully revealed process, and a live vote per pooled vote. -/
def commitJobs (isLive : Bytes → Except String Bool) (height : Int) (s : Scrutinizer) :
    List Job :=
  .checkFinishedProcesses height ::
    (s.processPool.flatMap fun p => .addEntity p.entityID p.processID ::
      match isLive p.processID with
      | .ok true => [.addLiveResultsProcess p.processID]
      | _ => []) ++
    (s.resultsPool.enum.map fun (i, p) => .registerPendingProcess p.processID (height + (i + 1))) ++
    s.votePool.map .addLiveResultsVote

/-- `Commit(height)` runs its calls on the database and the entity count; the pools are left
as they are. -/
def commit (isLive : Bytes → Except String Bool) (run : Job → Db × Int → Db × Int)
    (height : Int) (s : Scrutinizer) : Scrutinizer :=
  let r := (commitJobs isLive height s).foldl (fun acc j => run j acc) (s.storage, s.entityCount)
  { s with storage := r.1, entityCount := r.2 }

/-- The scrutinizer as a listener of the vochain state (`AddEventListener(s)`).
`isLive` is `isLiveResultsProcess` and `run` the processing of one call; both read or write
only what they are given. -/
def listener {σ γ : Type} (B : Backend σ γ) (isLive : σ → Bytes → Except String Bool)
    (run : Job → Db × Int → Db × Int) : EventListener σ Scrutinizer where
  onProcess _ pid eid _ _ s := s.onProcess pid eid
  onVote w v s := s.onVote (isLive w v.processID) v
  onCancel _ _ s := s
  onProcessKeys _ _ _ _ s := s
  onRevealKeys w pid _ _ s := s.onRevealKeys (B.process w pid) pid
  commit w height s := s.commit (isLive w) run height
  rollback s := s.rollback

/-- What the scrutinizer's callback for an event, raised in state `w`, appends to its
pools. -/
def entry {σ γ : Type} (B : Backend σ γ) (isLive : σ → Bytes → Except String Bool) (w : σ) :
    Event → Pools
  | .process pid eid _ _ => ⟨[⟨eid, pid⟩], [], []⟩
  | .vote v => match isLive w v.processID with
      | .ok true => ⟨[], [], [v]⟩
      | _ => ∅
  | .revealKeys pid _ _ => match B.process w pid with
      | .ok p => if p.keyIndex < 1 then ⟨[], [⟨p.entityID, pid⟩], []⟩ else ∅
      | .error _ => ∅
  | .cancel _ | .processKeys _ _ _ => ∅

section Listener

variable {σ γ : Type} (B : Backend σ γ) (isLive : σ → Bytes → Except String Bool)
  (run : Job → Db × Int → Db × Int)

/-- Every callback appends its event's entry to the pools. -/
theorem dispatch_pools (w : σ) (e : Event) (s : Scrutinizer) :
  ((listener B isLive run).dispatch w e s).pools = s.pools ++ entry B isLive w e
  := by
  cases e with
  | process => simp [EventListener.dispatch, listener, onProcess, entry, pools]
  | vote v =>
      simp only [EventListener.dispatch, listener, onVote, entry]
      split <;> simp_all [pools]
  | revealKeys pid =>
      simp only [EventListener.dispatch, listener, onRevealKeys, entry]
      split
      · split <;> simp [pools]
      · simp [pools]
  | cancel => simp [EventListener.dispatch, listener, entry, pools]
  | processKeys => simp [EventListener.dispatch, listener, entry, pools]

@[simp] theorem rollback_pools (s : Scrutinizer) :
  ((listener B isLive run).rollback s).pools = ∅
  := rfl

/-- `Commit` does not empty the pools. -/
@[simp] theorem commit_pools (w : σ) (height : Int) (s : Scrutinizer) :
  ((listener B isLive run).commit w height s).pools = s.pools
  := rfl

/-- The database and the entity count: what the calls of `Commit` write. -/
def db (s : Scrutinizer) : Db × Int := (s.storage, s.entityCount)

/-- The callbacks only append to the pools. -/
@[simp] theorem dispatch_db (w : σ) (e : Event) (s : Scrutinizer) :
  ((listener B isLive run).dispatch w e s).db = s.db
  := by
  cases e with
  | vote v =>
      simp only [EventListener.dispatch, listener, onVote]
      split <;> rfl
  | revealKeys pid =>
      simp only [EventListener.dispatch, listener, onRevealKeys]
      split
      · split <;> rfl
      · rfl
  | _ => rfl

@[simp] theorem rollback_db (s : Scrutinizer) :
  ((listener B isLive run).rollback s).db = s.db
  := rfl

/-- `Commit` runs its calls, in order, on the database and the entity count. -/
theorem commit_db (w : σ) (height : Int) (s : Scrutinizer) :
  ((listener B isLive run).commit w height s).db
    = (commitJobs (isLive w) height s).foldl (fun acc j => run j acc) s.db
  := rfl

end Listener

end Scrutinizer
