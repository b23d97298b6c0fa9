import Dvote.Vochain.Commit
import Dvote.Scrutinizer.List

/-!
# What the scrutinizer hands over at each save

With the scrutinizer registered as the state's listener, every save (`Commit`, and the
one `InitChain` ends with) calls `Scrutinizer.Commit`, which hands the three pools to its
processing and does not empty them. The pools are emptied only by `State.Rollback`, which
`BeginBlock` and `Info` call; between two rollbacks the callbacks of the delivered
transactions append to them.

`handed` is what the pools hold at each save of a run; `savedEntries` is, at each save, the
entries of the events raised by exactly the transactions whose writes that save commits
(the pending writes of `pendingOps`, replayed over the committed snapshot). The two agree on
every run the consensus engine can drive: a `BeginBlock` always comes between two saves, so
no pool is handed over twice, and a rollback discards a transaction's events together with
its writes.

What `Commit` does with the pools is stated through the calls it makes. `drainJobs` is the
spec's account of draining the pools at a height, which `commitJobs` refines
(`commitJobs_eq_drainJobs`). `drainedDb` is the database and entity count after a run as the
spec gives them, each save draining the entries of exactly the writes it commits; the
scrutinizer ends every run with them, whatever the processing of one call does
(`run_db_eq_drainedDb`). Both facts together are
`scrutinizer_commit_hands_committed_events`.
-/

open Vochain

namespace Scrutinizer

variable {σ γ : Type} (B : Backend σ γ) (isLive : σ → Bytes → Except String Bool)
  (run : Job → Db × Int → Db × Int)

/-! ### Pools -/

@[simp] theorem Pools.append_assoc (p q r : Pools) :
  p ++ q ++ r = p ++ (q ++ r)
  := by simp

@[simp] theorem Pools.append_empty (p : Pools) :
  p ++ ∅ = p
  := by simp

@[simp] theorem Pools.empty_append (p : Pools) :
  ∅ ++ p = p
  := by simp

/-- What the scrutinizer pools for events raised in the working set `w`, in order. -/
def entries (w : σ) (evs : List Event) : Pools :=
  evs.foldr (fun e p => entry B isLive w e ++ p) ∅

/-- Dispatching events appends their entries to the pools. -/
theorem foldl_dispatch_pools (w : σ) (evs : List Event) (s : Scrutinizer) :
  (evs.foldl (fun l e => (listener B isLive run).dispatch w e l) s).pools
    = s.pools ++ entries B isLive w evs
  := by
  induction evs generalizing s with
  | nil => simp [entries]
  | cons e evs ih => simp [entries, ih, dispatch_pools]

/-- What the scrutinizer pools for the events of one write, replayed over `w`. -/
def opEntries : Op → σ → Pools
  | .header _, _ => ∅
  | .tx t, w => entries B isLive (BaseApplication.delivered B t w).1 (BaseApplication.delivered B t w).2

/-- What the scrutinizer pools for the events of writes replayed in order over `w`. -/
def replayEntries : List Op → σ → Pools
  | [], _ => ∅
  | o :: ops, w => opEntries B isLive o w ++ replayEntries ops (o.apply B w)

theorem replayEntries_append_single (ops : List Op) (o : Op) (w : σ) :
  replayEntries B isLive (ops ++ [o]) w
    = replayEntries B isLive ops w ++ opEntries B isLive o (replay B ops w)
  := by
  induction ops generalizing w with
  | nil => simp [replayEntries]
  | cons o' ops ih => simp [replayEntries, ih]

/-! ### The hand-over along a run -/

/-- Whether a request saves the state, calling every listener's `Commit`. -/
def Request.saves : Request → Bool
  | .commit | .initChain _ => true
  | _ => false

/-- The pools the scrutinizer holds at each save of a run, in order. -/
def handed (app : BaseApplication σ Scrutinizer) : List Request → List Pools
  | [] => []
  | r :: rs => (if Request.saves r then [app.state.listeners.pools] else [])
      ++ handed ((app.handle B (listener B isLive run) r).1) rs

/-- At each save of a run, the entries of the events raised by the transactions whose writes
the save commits: the pending writes `ops` (the `pendingOps` of the requests before) replayed
over the committed snapshot. -/
def savedEntries (app : BaseApplication σ Scrutinizer) (ops : List Op) : List Request → List Pools
  | [] => []
  | r :: rs => (if Request.saves r then [replayEntries B isLive ops app.state.committed] else [])
      ++ savedEntries ((app.handle B (listener B isLive run) r).1) (pendingStep ops r) rs

/-- Inside a block, and before the first one, the pools are the entries of the pending
writes; between blocks they may be anything. -/
def PoolsReplay (p : Phase) (ops : List Op) (app : BaseApplication σ Scrutinizer) : Prop :=
  p = .between ∨ app.state.listeners.pools = replayEntries B isLive ops app.state.committed

/-- A request the consensus engine may send keeps the pools the entries of the pending
writes, and they are at each save. -/
theorem handle_poolsReplay {p p' : Phase} {ops : List Op} {app : BaseApplication σ Scrutinizer}
    (hw : WorkingReplays B ops app) (h : PoolsReplay B isLive p ops app)
    {r : Request} (hr : p.next r = some p') :
  PoolsReplay B isLive p' (pendingStep ops r) ((app.handle B (listener B isLive run) r).1) ∧
    (Request.saves r = true →
      app.state.listeners.pools = replayEntries B isLive ops app.state.committed)
  := by
  unfold PoolsReplay WorkingReplays at *
  cases r with
  | info => exact ⟨.inr (by simp [State.rollback, pendingStep, replayEntries]), nofun⟩
  | beginBlock hd =>
      exact ⟨.inr (by simp [State.rollback, State.add, pendingStep, replayEntries, opEntries]),
        nofun⟩
  | deliverTx t =>
      cases p <;> cases hr
      refine ⟨.inr ?_, nofun⟩
      simp [foldl_dispatch_pools, replayEntries_append_single, pendingStep, h.resolve_left nofun,
        hw, opEntries]
  | initChain b => cases p <;> cases hr; exact ⟨.inl rfl, fun _ => h.resolve_left nofun⟩
  | commit => cases p <;> cases hr; exact ⟨.inl rfl, fun _ => h.resolve_left nofun⟩
  | endBlock => cases p <;> cases hr; exact ⟨.inr (h.resolve_left nofun), nofun⟩
  | checkTx tx recheck =>
      rw [BaseApplication.handle_checkTx]
      cases p <;> cases hr <;> exact ⟨h, nofun⟩
  | query | setOption => cases p <;> cases hr <;> exact ⟨h, nofun⟩

/-- Along every run the consensus engine can drive from a state where the working set is the
replay of `ops` and the pools are their entries, the scrutinizer hands over at each save the
entries of the writes that save commits. -/
theorem handed_eq_savedEntries {p : Phase} {ops : List Op} {app : BaseApplication σ Scrutinizer}
    (hw : WorkingReplays B ops app) (h : PoolsReplay B isLive p ops app) (rs : List Request)
    (hrs : (rs.foldlM Phase.next p).isSome) :
  handed B isLive run app rs = savedEntries B isLive run app ops rs
  := by
  induction rs generalizing p ops app with
  | nil => rfl
  | cons r rs ih =>
      cases hr : p.next r with
      | none => simp [hr] at hrs
      | some p' =>
          obtain ⟨h', hsave⟩ := handle_poolsReplay B isLive run hw h hr
          simp only [handed, savedEntries]
          rw [ih (handle_working_replays B _ hw r) h' (by simpa [hr] using hrs)]
          by_cases hs : Request.saves r = true
          · simp [hs, hsave hs]
          · simp [hs]

/-! ### What each `Commit` runs -/

/-- Modelled from the spec (§4.5, On `Commit(height)`): the calls that draining the pools `p`
at `height` makes, in order. First the check of the processes ending at `height`; then, for
each new process, its entity and, when the process keeps live results, its live tally; for the
`i`-th process whose keys were all revealed, a final computation at `height + i + 1`; and each
pooled vote, added to its live tally. -/
def drainJobs (isLive : Bytes → Except String Bool) (height : Int) (p : Pools) : List Job :=
  [.checkFinishedProcesses height] ++
    p.processPool.flatMap (fun e => .addEntity e.entityID e.processID ::
      if (isLive e.processID).toOption = some true then [.addLiveResultsProcess e.processID]
      else []) ++
    (p.resultsPool.enum.map fun ie => .registerPendingProcess ie.2.processID (height + ie.1 + 1)) ++
    p.votePool.map .addLiveResultsVote

/-- `Commit` makes the calls that the spec says draining its pools makes. -/
theorem commitJobs_eq_drainJobs (isLive : Bytes → Except String Bool) (height : Int)
    (s : Scrutinizer) :
  commitJobs isLive height s = drainJobs isLive height s.pools
  := by
  simp only [commitJobs, drainJobs, pools, List.singleton_append, Int.add_assoc]
  congr 4
  funext e
  rcases isLive e.processID with _ | _ | _ <;> rfl

@[simp] theorem foldl_dispatch_db (w : σ) (evs : List Event) (s : Scrutinizer) :
  (evs.foldl (fun l e => (listener B isLive run).dispatch w e l) s).db = s.db
  := by
  induction evs generalizing s with
  | nil => rfl
  | cons e evs ih => simp [ih]

/-- A request that saves calls every listener's `Commit` with the working set it commits and
that set's height. -/
theorem handle_listeners_of_saves {ℓ : Type} (L : EventListener σ ℓ) (app : BaseApplication σ ℓ)
    {r : Request} (hs : Request.saves r = true) :
  (app.handle B L r).1.state.listeners
    = L.commit (app.handle B L r).1.state.committed ((app.handle B L r).1.state.height B)
        app.state.listeners
  := by
  cases r <;> first | rfl | cases hs

/-- A request that does not save leaves the scrutinizer's database and entity count. -/
theorem handle_db_of_not_saves (app : BaseApplication σ Scrutinizer) {r : Request}
    (hs : Request.saves r = false) :
  (app.handle B (listener B isLive run) r).1.state.listeners.db = app.state.listeners.db
  := by
  cases r <;> (try cases hs) <;> simp [State.rollback, State.add]

/-- The database and entity count the spec gives after a run, from `acc`: at each save, `run`
applied in order to the calls that draining the entries of the events raised by the writes the
save commits makes, at the working set the save commits and its height. -/
def drainedDb (app : BaseApplication σ Scrutinizer) (ops : List Op) (acc : Db × Int) :
    List Request → Db × Int
  | [] => acc
  | r :: rs =>
      let app' := (app.handle B (listener B isLive run) r).1
      drainedDb app' (pendingStep ops r)
        (if Request.saves r then
          (drainJobs (isLive app'.state.committed) (app'.state.height B)
            (replayEntries B isLive ops app.state.committed)).foldl (fun a j => run j a) acc
        else acc) rs

/-- Along every run the consensus engine can drive from a state where the working set is the
replay of `ops` and the pools are their entries, the scrutinizer's database and entity count
end as the spec's draining of the committed events at each save leaves them. -/
theorem run_db_eq_drainedDb {p : Phase} {ops : List Op} {app : BaseApplication σ Scrutinizer}
    (hw : WorkingReplays B ops app) (h : PoolsReplay B isLive p ops app) (rs : List Request)
    (hrs : (rs.foldlM Phase.next p).isSome) :
  (app.run B (listener B isLive run) rs).state.listeners.db
    = drainedDb B isLive run app ops app.state.listeners.db rs
  := by
  induction rs generalizing p ops app with
  | nil => rfl
  | cons r rs ih =>
      cases hr : p.next r with
      | none => simp [hr] at hrs
      | some p' =>
          obtain ⟨h', hsave⟩ := handle_poolsReplay B isLive run hw h hr
          rw [BaseApplication.run_cons, ih (handle_working_replays B _ hw r) h'
            (by simpa [hr] using hrs), drainedDb]
          congr 1
          by_cases hs : Request.saves r = true
          · -- the save's `Commit` drains the entries of the writes it commits
            rw [if_pos hs, handle_listeners_of_saves B _ app hs, commit_db,
              commitJobs_eq_drainJobs, hsave hs]
          · rw [if_neg hs, handle_db_of_not_saves B isLive run app (by simpa using hs)]

/-- With the scrutinizer of `NewScrutinizer` listening from the start, on every run the
consensus engine can drive, each `Scrutinizer.Commit` is handed exactly the entries of the
events raised by the transactions whose writes the save commits (`pendingOps`, as in
`commit_saves_writes_since_reset`), and the scrutinizer's database and entity count end as the
calls that draining those entries makes at each save, and nothing else, leave them, whatever
these calls do. The pending writes are emptied at every save and every rollback, so each event
is drained at most once, and never one whose writes a rollback discarded. -/
theorem scrutinizer_commit_hands_committed_events (s : σ) (db : Db) (entityPrefix : UInt8)
    (rs : List Request) (hwf : Wellformed rs) :
  let app := BaseApplication.new s (newScrutinizer db entityPrefix)
  handed B isLive run app rs = savedEntries B isLive run app [] rs ∧
    (app.run B (listener B isLive run) rs).state.listeners.db
      = drainedDb B isLive run app [] (newScrutinizer db entityPrefix).db rs
  := by
  intro app
  -- nothing is pending in the new application, and its pools are empty
  have hw : WorkingReplays B [] app := rfl
  have hp : PoolsReplay B isLive .genesis [] app := .inr rfl
  exact ⟨handed_eq_savedEntries B isLive run hw hp rs hwf,
    run_db_eq_drainedDb B isLive run hw hp rs hwf⟩

/-- A backend whose transaction `[0, p]` creates the process `[p]` of the entity `[p]`, `[1, p]`
votes in it, and `[2, p]` reveals its last keys; every process keeps live results. -/
def eventBackend : Backend Nat Bytes where
  add _ _ _ n := n + 1
  appHash n := [n.toUInt8]
  header _ := none
  headerKey := []
  marshalHeader _ := []
  unmarshalGenesis _ := ⟨[], []⟩
  addOracle _ n := n
  addValidator _ n := n
  unmarshalTx t := .ok t
  addTx t n := match t with
    | [k, p] =>
        if k = 0 then .ok ([], n + 1, [.process [p] [p] "" ""])
        else if k = 1 then .ok ([], n + 1, [.vote ⟨[p], [], []⟩])
        else if k = 2 then .ok ([], n + 1, [.revealKeys [p] "" ""])
        else .error "invalid transaction"
    | _ => .error "invalid transaction"
  checkTx _ _ := .ok []
  process _ pid := .ok ⟨pid, 0⟩

/-- A block in which the process `5` is created and voted in, begun again so that its writes are
discarded, then the process `6` is created, voted in and has its keys revealed, and the block is
committed. The run function counts the calls into the entity count: the `Commit` is handed the
process `6` once in each pool and runs five calls, none for the discarded process `5`. -/
theorem scrutinizer_commit_hands_committed_events_sample :
  let rs := [Request.beginBlock ⟨1, []⟩, .deliverTx [0, 5], .deliverTx [1, 5],
    .beginBlock ⟨1, []⟩, .deliverTx [0, 6], .deliverTx [1, 6], .deliverTx [2, 6], .endBlock,
    .commit]
  let isLive : Nat → Bytes → Except String Bool := fun _ _ => .ok true
  let count : Job → Db × Int → Db × Int := fun _ acc => (acc.1, acc.2 + 1)
  let app := BaseApplication.new 0 (newScrutinizer ⟨[], List.sorted_nil⟩ 0)
  Wellformed rs ∧
    handed eventBackend isLive count app rs = [⟨[⟨[6], [6]⟩], [⟨[6], [6]⟩], [⟨[6], [], []⟩]⟩] ∧
    (app.run eventBackend (listener eventBackend isLive count) rs).state.listeners.entityCount
      = 5 ∧
    (handed eventBackend isLive count app rs = savedEntries eventBackend isLive count app [] rs ∧
      (app.run eventBackend (listener eventBackend isLive count) rs).state.listeners.db
        = drainedDb eventBackend isLive count app [] (newScrutinizer ⟨[], List.sorted_nil⟩ 0).db rs)
  := ⟨by decide, by decide, by decide,
    scrutinizer_commit_hands_committed_events _ _ _ 0 _ 0 _ (by decide)⟩

end Scrutinizer
