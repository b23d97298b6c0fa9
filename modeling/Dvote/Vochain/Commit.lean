import Dvote.Vochain.App

/-!
# What a Commit saves

Between two resets of the working set the consensus connection writes a block header and
delivers transactions; the working set is always those writes replayed over the committed
snapshot (`working_eq_replay`). A reset is a `State.Rollback` (in `BeginBlock` and in `Info`)
or a save (in `Commit` and `InitChain`).

So a `Commit` saves, and hashes, the committed snapshot with the writes made since the last
reset replayed over it (`commit_saves_writes_since_reset`). Because `Info` rolls back
unconditionally, an `Info` that arrives inside a block discards that block's header and the
transactions delivered before it, which are then missing from what the block's `Commit`
saves (`commit_after_info_loses_block`). In a block no `Info` arrives in, the writes since the
last reset are the block's header and transactions (`commit_saves_block_without_info`). A
block rolled back by a second `BeginBlock` and delivered again commits as if delivered once
(`redelivered_block_commits_once`). And since only a save changes the committed snapshot,
every `Info` reports as the last app hash the data the last `Commit` answered
(`info_reports_commit_hash`), as the ABCI handshake expects.
-/

namespace Vochain

variable {σ γ ℓ : Type} (B : Backend σ γ) (L : EventListener σ ℓ)

/-- A write the consensus connection makes into the working set: a block header, or a
delivered transaction. -/
inductive Op
  | header (h : Header)
  | tx (t : Bytes)
  deriving DecidableEq, Repr

/-- A write, applied to a store. -/
def Op.apply : Op → σ → σ
  | .header h, w => B.add .appTree B.headerKey (B.marshalHeader h) w
  | .tx t, w => (BaseApplication.delivered B t w).1

/-- Writes replayed, in order, over a store. -/
def replay (ops : List Op) (w : σ) : σ := ops.foldl (fun w o => o.apply B w) w

@[simp] theorem replay_nil (w : σ) :
  replay B [] w = w
  := rfl

@[simp] theorem replay_cons (o : Op) (ops : List Op) (w : σ) :
  replay B (o :: ops) w = replay B ops (o.apply B w)
  := rfl

@[simp] theorem replay_append_single (ops : List Op) (o : Op) (w : σ) :
  replay B (ops ++ [o]) w = o.apply B (replay B ops w)
  := List.foldl_append _ _ _ _

/-- The writes since the working set was last reset: `BeginBlock` starts them with its
header, `DeliverTx` adds its transaction, and `Info`, `Commit` and `InitChain` empty them. -/
def pendingStep (ops : List Op) : Request → List Op
  | .beginBlock h => [.header h]
  | .deliverTx t => ops ++ [.tx t]
  | .info | .commit | .initChain _ => []
  | _ => ops

/-- The writes since the last reset, after a run. -/
def pendingOps (rs : List Request) : List Op := rs.foldl pendingStep []

@[simp] theorem pendingOps_append_single (rs : List Request) (r : Request) :
  pendingOps (rs ++ [r]) = pendingStep (pendingOps rs) r
  := List.foldl_append _ _ _ _

/-- The working set is the pending writes replayed over the committed snapshot. -/
def WorkingReplays (ops : List Op) (app : BaseApplication σ ℓ) : Prop :=
  app.state.working = replay B ops app.state.committed

/-- One request keeps the working set the replay of the pending writes. -/
theorem handle_working_replays {ops : List Op} {app : BaseApplication σ ℓ}
    (h : WorkingReplays B ops app) (r : Request) :
  WorkingReplays B (pendingStep ops r) (app.handle B L r).1
  := by
  unfold WorkingReplays at *
  cases r with
  | initChain b => exact (BaseApplication.handle_initChain_committed B L app b).symm
  | deliverTx t => simp [pendingStep, Op.apply, h]
  | _ => simp [pendingStep, Op.apply, State.save, h]

/-- Along every run from a state with nothing pending, the working set is the writes since
the last reset replayed over the committed snapshot. -/
theorem working_eq_replay (s : σ) (l : ℓ) (rs : List Request) :
  WorkingReplays B (pendingOps rs) ((BaseApplication.new s l).run B L rs)
  := by
  induction rs using List.reverseRecOn with
  | nil => rfl
  | append_singleton rs r ih =>
      rw [pendingOps_append_single, BaseApplication.run_append]
      exact handle_working_replays B L ih r

/-- Every `Commit` of every run saves the committed snapshot with the writes made since the
last reset replayed over it, and answers the app hash of what it saved. In a run the
consensus engine drives, these writes are the header of the most recent `BeginBlock`, unless
an `Info` came after it, and then the transactions delivered since the most recent
`BeginBlock` or `Info`, whichever came later. -/
theorem commit_saves_writes_since_reset (s : σ) (l : ℓ) (pre : List Request) :
  let app := (BaseApplication.new s l).run B L pre
  (app.handle B L .commit).1.state.committed = replay B (pendingOps pre) app.state.committed ∧
    (app.handle B L .commit).2 = .commit (B.appHash (replay B (pendingOps pre) app.state.committed))
  := by
  have h : _ = _ := working_eq_replay B L s l pre
  exact ⟨h, by rw [← h]; rfl⟩

/-! ### An `Info` inside a block -/

/-- The writes the claim expects a `Commit` to save: the header of the most recent
`BeginBlock` and the transactions delivered since it, whatever `Info` calls came between. -/
def blockStep (ops : List Op) : Request → List Op
  | .beginBlock h => [.header h]
  | .deliverTx t => ops ++ [.tx t]
  | .commit | .initChain _ => []
  | _ => ops

/-- The writes the claim expects, after a run. -/
def blockOps (rs : List Request) : List Op := rs.foldl blockStep []

@[simp] theorem blockOps_append_single (rs : List Request) (r : Request) :
  blockOps (rs ++ [r]) = blockStep (blockOps rs) r
  := List.foldl_append _ _ _ _

/-- Whether an `Info` arrived since the working set was last started by `BeginBlock` or
saved. -/
def infoStep (arrived : Bool) : Request → Bool
  | .beginBlock _ | .commit | .initChain _ => false
  | .info => true
  | _ => arrived

/-- Whether an `Info` arrived in the current block, after a run. -/
def infoInBlock (rs : List Request) : Bool := rs.foldl infoStep false

/-- Without an `Info` in the current block, the pending writes are the block's. -/
theorem pendingOps_eq_blockOps (rs : List Request) (h : infoInBlock rs = false) :
  pendingOps rs = blockOps rs
  := by
  induction rs using List.reverseRecOn with
  | nil => rfl
  | append_singleton rs r ih =>
      simp only [infoInBlock, List.foldl_append, List.foldl_cons, List.foldl_nil] at h ih
      rw [pendingOps_append_single, blockOps_append_single]
      cases r <;> simp_all [infoStep, pendingStep, blockStep]

/-- A block no `Info` arrives in: its `Commit` saves the header of its `BeginBlock` and the
transactions delivered since, over the previously committed state, and answers their app
hash. -/
theorem commit_saves_block_without_info (s : σ) (l : ℓ) (pre : List Request)
    (h : infoInBlock pre = false) :
  let app := (BaseApplication.new s l).run B L pre
  (app.handle B L .commit).1.state.committed = replay B (blockOps pre) app.state.committed ∧
    (app.handle B L .commit).2 = .commit (B.appHash (replay B (blockOps pre) app.state.committed))
  := by
  have hw : _ = _ := working_eq_replay B L s l pre
  rw [pendingOps_eq_blockOps pre h] at hw
  exact ⟨hw, by rw [← hw]; rfl⟩

/-- A backend whose store counts the writes made into it and accepts every transaction. -/
def countingBackend : Backend Nat Bytes where
  add _ _ _ n := n + 1
  appHash n := [n.toUInt8]
  header _ := none
  headerKey := []
  marshalHeader _ := []
  unmarshalGenesis _ := ⟨[], []⟩
  addOracle _ n := n
  addValidator _ n := n
  unmarshalTx t := .ok t
  addTx _ n := .ok ([], n + 1, [])
  checkTx _ _ := .ok []
  process _ _ := .error "process not found"

/-- A listener that keeps nothing. -/
def silentListener : EventListener Nat Unit where
  onProcess _ _ _ _ _ _ := ()
  onVote _ _ _ := ()
  onCancel _ _ _ := ()
  onProcessKeys _ _ _ _ _ := ()
  onRevealKeys _ _ _ _ _ := ()
  commit _ _ _ := ()
  rollback _ := ()

/-- A block whose transaction is followed by an `Info` before `EndBlock`: its `Commit` saves
the previously committed store unchanged, not the block's header and transaction. -/
theorem commit_after_info_loses_block :
  let pre := [Request.beginBlock ⟨1, []⟩, .deliverTx [7], .info, .endBlock]
  let app := (BaseApplication.new 0 ()).run countingBackend silentListener pre
  Wellformed (pre ++ [.commit]) ∧
    (app.handle countingBackend silentListener .commit).1.state.committed
      ≠ replay countingBackend (blockOps pre) app.state.committed
  := by decide

/-- A block of one transaction with no `Info`, on the counting backend. -/
theorem commit_saves_block_without_info_sample :
  let pre := [Request.beginBlock ⟨1, []⟩, .deliverTx [7], .endBlock]
  let app := (BaseApplication.new 0 ()).run countingBackend silentListener pre
  infoInBlock pre = false ∧
    (app.handle countingBackend silentListener .commit).1.state.committed
      = replay countingBackend (blockOps pre) app.state.committed ∧
    (app.handle countingBackend silentListener .commit).2
      = .commit (countingBackend.appHash (replay countingBackend (blockOps pre) app.state.committed))
  := ⟨rfl, commit_saves_block_without_info _ _ _ _ _ rfl⟩

/-! ### A block delivered again -/

/-- Delivering transactions leaves the committed snapshot. -/
theorem run_deliverTx_committed (app : BaseApplication σ ℓ) (ts : List Bytes) :
  (app.run B L (ts.map .deliverTx)).state.committed = app.state.committed
  := by
  induction ts generalizing app with
  | nil => rfl
  | cons t ts ih => simp [ih]

/-- After a `BeginBlock`, the pending writes no longer depend on what came before it. -/
theorem pendingOps_beginBlock (pre : List Request) (h : Header) (rest : List Request) :
  pendingOps (pre ++ .beginBlock h :: rest) = rest.foldl pendingStep [.header h]
  := by
  simp [pendingOps, List.foldl_append, pendingStep]

/-- A block rolled back by a second `BeginBlock` after any transactions, and delivered again:
its `Commit` saves the state, and answers the app hash, that delivering the block once gives. -/
theorem redelivered_block_commits_once (s : σ) (l : ℓ) (pre : List Request) (h : Header)
    (ts us : List Bytes) :
  let once := (BaseApplication.new s l).run B L
    (pre ++ .beginBlock h :: (us.map .deliverTx ++ [.endBlock]))
  let twice := (BaseApplication.new s l).run B L
    (pre ++ .beginBlock h ::
      (ts.map .deliverTx ++ .beginBlock h :: (us.map .deliverTx ++ [.endBlock])))
  (twice.handle B L .commit).1.state.committed = (once.handle B L .commit).1.state.committed ∧
    (twice.handle B L .commit).2 = (once.handle B L .commit).2
  := by
  intro once twice
  have hw₁ : _ = _ := working_eq_replay B L s l
    (pre ++ .beginBlock h :: (us.map .deliverTx ++ [.endBlock]))
  have hw₂ : _ = _ := working_eq_replay B L s l
    (pre ++ .beginBlock h ::
      (ts.map .deliverTx ++ .beginBlock h :: (us.map .deliverTx ++ [.endBlock])))
  -- both runs commit the same writes over the snapshot the run before the block committed
  have hops : pendingOps (pre ++ .beginBlock h :: (ts.map .deliverTx ++ .beginBlock h ::
      (us.map .deliverTx ++ [.endBlock])))
      = pendingOps (pre ++ .beginBlock h :: (us.map .deliverTx ++ [.endBlock])) := by
    rw [pendingOps_beginBlock, pendingOps_beginBlock, List.foldl_append, List.foldl_cons]
    rfl
  have hc₁ : once.state.committed = ((BaseApplication.new s l).run B L pre).state.committed := by
    simp [once, run_deliverTx_committed]
  have hc₂ : twice.state.committed = ((BaseApplication.new s l).run B L pre).state.committed := by
    simp [twice, run_deliverTx_committed]
  have hw : twice.state.working = once.state.working := by
    rw [hw₁, hw₂, hops, hc₁, hc₂]
  exact ⟨hw, by simp only [BaseApplication.handle, BaseApplication.commit, State.save, hw]⟩

/-! ### What `Info` reports -/

/-- Only a save changes the committed snapshot. -/
theorem handle_committed (app : BaseApplication σ ℓ) {r : Request}
    (hr : r ≠ .commit ∧ ∀ b, r ≠ .initChain b) :
  (app.handle B L r).1.state.committed = app.state.committed
  := by
  cases r with
  | commit => exact absurd rfl hr.1
  | initChain b => exact absurd rfl (hr.2 b)
  | _ => simp

/-- Requests with no save among them leave the committed snapshot. -/
theorem run_committed (app : BaseApplication σ ℓ) (rs : List Request)
    (hrs : ∀ r ∈ rs, r ≠ .commit ∧ ∀ b, r ≠ .initChain b) :
  (app.run B L rs).state.committed = app.state.committed
  := by
  induction rs generalizing app with
  | nil => rfl
  | cons r rs ih =>
      rw [BaseApplication.run_cons, ih _ fun r' h => hrs r' (.tail _ h),
        handle_committed B L app (hrs r (.head _))]

/-- Every `Info` reports as `LastBlockAppHash` the data the last `Commit` answered, whatever
requests other than a save came between: the ABCI handshake compares the two. -/
theorem info_reports_commit_hash (app : BaseApplication σ ℓ) (mid : List Request)
    (hmid : ∀ r ∈ mid, r ≠ .commit ∧ ∀ b, r ≠ .initChain b) {d : Bytes}
    (hd : (app.handle B L .commit).2 = .commit d) :
  ∃ height, (((app.handle B L .commit).1.run B L mid).handle B L .info).2 = .info height d
  := by
  cases hd
  simp only [BaseApplication.handle, BaseApplication.info, State.rollback,
    run_committed B L _ mid hmid]
  exact ⟨_, rfl⟩

/-- A block of one transaction, committed, then a transaction checked, a block begun and a
transaction delivered into it: `Info` still reports the hash the `Commit` answered. -/
theorem info_reports_commit_hash_sample :
  let app := (BaseApplication.new 0 ()).run countingBackend silentListener
    [.beginBlock ⟨1, []⟩, .deliverTx [7], .endBlock]
  let mid := [Request.checkTx [8] false, .beginBlock ⟨2, []⟩, .deliverTx [9]]
  (∀ r ∈ mid, r ≠ .commit ∧ ∀ b, r ≠ .initChain b) ∧
    (app.handle countingBackend silentListener .commit).2 = .commit [2] ∧
    ∃ height, (((app.handle countingBackend silentListener .commit).1.run countingBackend
      silentListener mid).handle countingBackend silentListener .info).2 = .info height [2]
  := by
  intro app mid
  have hmid : ∀ r ∈ mid, r ≠ .commit ∧ ∀ b, r ≠ .initChain b := by
    simp [mid]
  exact ⟨hmid, rfl, info_reports_commit_hash _ _ app mid hmid rfl⟩

end Vochain
