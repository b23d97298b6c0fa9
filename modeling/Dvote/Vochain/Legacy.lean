import Dvote.Vochain.Commit

/-!
# The application of part_001

`part_001` holds an older `BaseApplication`, over a `VochainState` whose `Lock` flag decides
whether `BeginBlock` rolls back: it rolls back and takes the lock only when the lock is free,
and only `Commit` frees it. `Info` reads the trees and rolls nothing back; `Query` dispatches on
the method named in its data. `VochainState`, its trees and its codec are not under src, so
what the application calls on them is a `Backend`.

Along every run, the trees being written are the saved ones with the writes since the last
save or rollback replayed over them (`run_replays`). In a run the consensus engine drives, the
lock is held exactly while a block is open, and then the rollback of a `BeginBlock` with a free
lock discards nothing (`lock_held_iff_block_open`): each `Commit` saves every write made since
the previous save, those before an `Info` and those of a block begun again without a `Commit`
included (`commit_saves_writes_since_save`). In the spec's strict order, with no `Info` inside a
block, the application of part_000 saves the same writes (`commits_agree_on_strict_runs`).
-/

namespace Vochain

/-- Whether a block is open: begun and not yet committed. -/
def Phase.isOpen : Phase → Bool
  | .inBlock | .ended => true
  | .genesis | .between => false

/-- The consensus connection's order as the spec states it (§5): a block is begun only when no
block is open. -/
def Phase.nextStrict (p : Phase) : Request → Option Phase
  | .beginBlock h => if p.isOpen then none else p.next (.beginBlock h)
  | r => p.next r

/-- A run in the spec's strict order. -/
def StrictlyOrdered (rs : List Request) : Prop := (rs.foldlM Phase.nextStrict .genesis).isSome

instance (rs : List Request) : Decidable (StrictlyOrdered rs) :=
  inferInstanceAs (Decidable ((rs.foldlM Phase.nextStrict .genesis).isSome = true))

/-- An invariant of two folds that every accepted step keeps holds after every accepted run. -/
theorem foldlM_preserves {α β γ : Type} (next : Phase → α → Option Phase)
    {f : β → α → β} {g : γ → α → γ} (I : Phase → β → γ → Prop)
    (hstep : ∀ p p' a b c, next p a = some p' → I p b c → I p' (f b a) (g c a))
    {p p' : Phase} {b : β} {c : γ} (h : I p b c) (rs : List α)
    (hrs : rs.foldlM next p = some p') :
  I p' (rs.foldl f b) (rs.foldl g c)
  := by
  induction rs generalizing p b c with
  | nil =>
      cases hrs
      exact h
  | cons r rs ih =>
      cases hr : next p r with
      | none => simp [hr] at hrs
      | some p'' => exact ih (hstep _ _ _ _ _ hr h) (by simpa [hr] using hrs)

/-- A run in the strict order is one the consensus connection may send. -/
theorem foldlM_next_of_nextStrict (rs : List Request) {p p' : Phase}
    (h : rs.foldlM Phase.nextStrict p = some p') :
  rs.foldlM Phase.next p = some p'
  := by
  induction rs generalizing p with
  | nil => exact h
  | cons r rs ih =>
      have hr : ∀ q, p.nextStrict r = some q → p.next r = some q := by
        intro q hq
        cases r <;> first
          | exact hq
          | (simp only [Phase.nextStrict] at hq; split at hq <;> simp_all)
      cases hs : p.nextStrict r with
      | none => simp [hs] at h
      | some q => simpa [hr q hs] using ih (by simpa [hs] using h)

/-- The writes since the last save: `BeginBlock` adds its header, `DeliverTx` its transaction,
and `Commit` and `InitChain` save them. -/
def savedStep (ops : List Op) : Request → List Op
  | .beginBlock h => ops ++ [.header h]
  | .deliverTx t => ops ++ [.tx t]
  | .commit | .initChain _ => []
  | _ => ops

/-- The writes since the last save, after a run. -/
def savedOps (rs : List Request) : List Op := rs.foldl savedStep []

/-- In the strict order, the writes since the last save are the block's, and outside a block
there are none. -/
def BlockMatches (p : Phase) (bops ops : List Op) : Prop :=
  bops = ops ∧ (p.isOpen = false → ops = [])

/-- Every request of the strict order keeps the block's writes those since the last save. -/
theorem blockMatches_step {p p' : Phase} {r : Request} {bops ops : List Op}
    (hr : p.nextStrict r = some p') (h : BlockMatches p bops ops) :
  BlockMatches p' (blockStep bops r) (savedStep ops r)
  := by
  obtain ⟨rfl, hempty⟩ := h
  cases r <;> cases p <;> cases hr <;>
    simp_all [BlockMatches, blockStep, savedStep, Phase.isOpen]

namespace Legacy

/-- A genesis validator of `types.AppState`: its power is a decimal string. -/
structure GenesisValidator where
  pubKey : String
  power : String
  deriving DecidableEq, Repr

/-- `types.AppState`, the genesis app state. -/
structure AppState where
  oracles : List String
  validators : List GenesisValidator
  deriving DecidableEq, Repr

/-- `types.QueryData`, as `Query` reads it. -/
structure QueryData where
  method : String
  processID : String
  nullifier : String
  deriving DecidableEq, Repr

/-- What the application of part_001 calls on its `VochainState`, whose trees are a `σ`, and
on the codecs. The getters read the trees as they are, written or not. -/
structure Backend (σ : Type) where
  /-- `AppTree.Get(key)`: `none` for a nil value. -/
  get : Bytes → σ → Option Bytes
  /-- `AppTree.Set(key, value)`. -/
  set : Bytes → Bytes → σ → σ
  /-- `GetHash()`. -/
  getHash : σ → Bytes
  heightKey : Bytes
  appHashKey : Bytes
  /-- `Codec.MarshalBinaryBare` of an `int64`, which does not fail. -/
  marshalHeight : Int → Bytes
  /-- `Codec.UnmarshalBinaryBare` into an `int64`. -/
  unmarshalHeight : Bytes → Except String Int
  /-- `json.Unmarshal` into a `types.AppState`: what it decoded, also after an error. -/
  unmarshalAppState : Bytes → AppState
  /-- `strconv.ParseInt(s, 10, 64)`: its value, also after an error. -/
  parseInt : String → Int
  /-- `AddOracle(address)`. -/
  addOracle : String → σ → σ
  /-- `AddValidator(pubKey, power)`. -/
  addValidator : String → Int → σ → σ
  /-- `ValidateTx(tx, state)`, which writes nothing. -/
  validateTx : Bytes → σ → Except String Unit
  /-- `ValidateAndDeliverTx(tx, state)`: a rejected transaction writes nothing. -/
  validateAndDeliverTx : Bytes → σ → Except String σ
  /-- `GetEnvelope(processID_nullifier)`: the envelope's vote package. -/
  getEnvelope : String → σ → Except String String
  /-- `Codec.MarshalBinaryBare` of a vote package. -/
  marshalVotePackage : String → Except String Bytes
  /-- `CountVotes(processID)`. -/
  countVotes : String → σ → Int
  /-- `Codec.MarshalBinaryBare` of a vote count. -/
  marshalVotes : Int → Except String Bytes
  /-- `GetHeight()`. -/
  getHeight : σ → Bytes
  /-- `json.Unmarshal` into a `types.QueryData`. -/
  unmarshalQuery : Bytes → Except String QueryData

/-- `VochainState`: the saved trees, the trees being written, and `Lock`. -/
structure VochainState (σ : Type) where
  committed : σ
  working : σ
  lock : Bool

/-- An ABCI request as the application of part_001 reads it: `Query` carries its data. -/
inductive Request
  | info
  | initChain (appStateBytes : Bytes)
  | beginBlock (header : Header)
  | checkTx (tx : Bytes) (recheck : Bool)
  | deliverTx (tx : Bytes)
  | endBlock
  | commit
  | query (data : Bytes)
  | setOption
  deriving DecidableEq, Repr

/-- The same request as the application of part_000 reads it, which ignores `Query`'s data. -/
def Request.erase : Request → Vochain.Request
  | .info => .info
  | .initChain b => .initChain b
  | .beginBlock h => .beginBlock h
  | .checkTx tx recheck => .checkTx tx recheck
  | .deliverTx tx => .deliverTx tx
  | .endBlock => .endBlock
  | .commit => .commit
  | .query _ => .query
  | .setOption => .setOption

/-- The fields of an ABCI response the application of part_001 sets. -/
inductive Response
  | info (lastBlockHeight : Int) (lastBlockAppHash : Bytes)
  | initChain
  | beginBlock
  | setOption
  | checkTx (code : Nat) (info : String)
  | deliverTx (code : Nat)
  | commit (data : Bytes)
  | query (code : Nat) (info : String) (value : Bytes)
  | endBlock
  deriving DecidableEq, Repr

/-- `BaseApplication` of part_001: the `VochainState` it drives. -/
structure BaseApplication (σ : Type) where
  state : VochainState σ

variable {σ : Type} (B : Backend σ)

namespace BaseApplication

/-- `NewBaseApplication` over loaded trees: nothing written, the lock free. -/
def new (s : σ) : BaseApplication σ := ⟨⟨s, s, false⟩⟩

/-- `Info`: the height stored in the trees, `0` when there is none or it does not decode, and
the app hash stored there, empty when there is none. Nothing is rolled back. -/
def info (app : BaseApplication σ) : BaseApplication σ × Response :=
  let height := match B.get B.heightKey app.state.working with
    | some bs => match B.unmarshalHeight bs with
      | .ok h => h
      | .error _ => 0
    | none => 0
  (app, .info height ((B.get B.appHashKey app.state.working).getD []))

/-- `InitChain`: install the genesis oracles and validators, set the height `0`, and save. -/
def initChain (appStateBytes : Bytes) (app : BaseApplication σ) :
    BaseApplication σ × Response :=
  let appState := B.unmarshalAppState appStateBytes
  let w := appState.oracles.foldl (fun w o => B.addOracle o w) app.state.working
  let w := appState.validators.foldl
    (fun w v => B.addValidator v.pubKey (B.parseInt v.power) w) w
  let w := B.set B.heightKey (B.marshalHeight 0) w
  (⟨{ app.state with committed := w, working := w }⟩, .initChain)

/-- `BeginBlock`: with the lock free, take it and roll back; with the lock held, only warn.
Then set the block's height. -/
def beginBlock (header : Header) (app : BaseApplication σ) : BaseApplication σ × Response :=
  let st := if app.state.lock then app.state
    else { app.state with lock := true, working := app.state.committed }
  (⟨{ st with working := B.set B.heightKey (B.marshalHeight header.height) st.working }⟩,
    .beginBlock)

/-- `CheckTx`: validate the transaction; nothing is written. -/
def checkTx (tx : Bytes) (app : BaseApplication σ) : BaseApplication σ × Response :=
  match B.validateTx tx app.state.working with
  | .error e => (app, .checkTx 1 e)
  | .ok () => (app, .checkTx 0 "")

/-- `DeliverTx`: validate and deliver the transaction into the trees. -/
def deliverTx (tx : Bytes) (app : BaseApplication σ) : BaseApplication σ × Response :=
  match B.validateAndDeliverTx tx app.state.working with
  | .error _ => (app, .deliverTx 1)
  | .ok w => (⟨{ app.state with working := w }⟩, .deliverTx 0)

/-- `Commit`: save, free the lock, and answer the hash of the saved trees. -/
def commit (app : BaseApplication σ) : BaseApplication σ × Response :=
  (⟨{ app.state with committed := app.state.working, lock := false }⟩,
    .commit (B.getHash app.state.working))

/-- `Query`: the method named in the data, on the envelope `processId_nullifier` or the
process. Two methods are not implemented. -/
def query (data : Bytes) (app : BaseApplication σ) : Response :=
  match B.unmarshalQuery data with
  | .error e => .query 1 ("cannot unmarshal request in app query: " ++ e) []
  | .ok q =>
      let w := app.state.working
      let key := q.processID ++ "_" ++ q.nullifier
      match q.method with
      | "getEnvelopeStatus" =>
          match B.getEnvelope key w with
          | .error _ => .query 1 "" []
          | .ok _ => .query 0 "" []
      | "getEnvelope" =>
          match B.getEnvelope key w with
          | .error e => .query 1 ("cannot get envelope: " ++ e) []
          | .ok vp =>
              match B.marshalVotePackage vp with
              | .error _ => .query 1 "cannot marshal processBytes" []
              | .ok bs => .query 0 "" bs
      | "getEnvelopeHeight" =>
          match B.marshalVotes (B.countVotes q.processID w) with
          | .error _ => .query 1 "cannot marshal votes count bytes" []
          | .ok bs => .query 0 "" bs
      | "getBlockHeight" => .query 0 "" (B.getHeight w)
      | "getProcessList" => .query 1 "not implemented" []
      | "getEnvelopeList" => .query 1 "not implemented" []
      | _ => .query 1 "undefined query method" []

/-- The method a request is answered by. `EndBlock` and `SetOption` answer an empty response;
they, `Query` and `CheckTx` change nothing. -/
def handle (app : BaseApplication σ) : Request → BaseApplication σ × Response
  | .info => app.info B
  | .initChain appStateBytes => app.initChain B appStateBytes
  | .beginBlock header => app.beginBlock B header
  | .checkTx tx _ => app.checkTx B tx
  | .deliverTx tx => app.deliverTx B tx
  | .endBlock => (app, .endBlock)
  | .commit => app.commit B
  | .query data => (app, app.query B data)
  | .setOption => (app, .setOption)

/-- The application after a run of requests. -/
def run (app : BaseApplication σ) (rs : List Request) : BaseApplication σ :=
  rs.foldl (fun a r => (a.handle B r).1) app

@[simp] theorem run_nil (app : BaseApplication σ) :
  app.run B [] = app
  := rfl

@[simp] theorem run_cons (app : BaseApplication σ) (r : Request) (rs : List Request) :
  app.run B (r :: rs) = (app.handle B r).1.run B rs
  := rfl

end BaseApplication

/-! ### The writes since the last save -/

/-- A write of the consensus connection, applied to the trees: a header sets the block's
height, and a transaction is validated and delivered, writing nothing when rejected. -/
def applyOp : Op → σ → σ
  | .header h, w => B.set B.heightKey (B.marshalHeight h.height) w
  | .tx t, w =>
      match B.validateAndDeliverTx t w with
      | .ok w' => w'
      | .error _ => w

/-- Writes replayed, in order, over trees. -/
def replay (ops : List Op) (w : σ) : σ := ops.foldl (fun w o => applyOp B o w) w

@[simp] theorem replay_nil (w : σ) :
  replay B [] w = w
  := rfl

@[simp] theorem replay_append_single (ops : List Op) (o : Op) (w : σ) :
  replay B (ops ++ [o]) w = applyOp B o (replay B ops w)
  := List.foldl_append _ _ _ _

/-- Whether `Lock` is held, and the writes since the trees were last saved or rolled back. -/
structure Pending where
  lock : Bool
  ops : List Op
  deriving DecidableEq, Repr

/-- What a request does to the lock and the pending writes: `BeginBlock` with the lock free
empties them before its header, `Commit` and `InitChain` save them. -/
def pendingStep : Pending → Vochain.Request → Pending
  | ⟨lock, ops⟩, .beginBlock h => ⟨true, (if lock then ops else []) ++ [.header h]⟩
  | ⟨lock, ops⟩, .deliverTx t => ⟨lock, ops ++ [.tx t]⟩
  | ⟨lock, _⟩, .initChain _ => ⟨lock, []⟩
  | _, .commit => ⟨false, []⟩
  | q, _ => q

/-- The lock and the pending writes after a run. -/
def pending (rs : List Vochain.Request) : Pending := rs.foldl pendingStep ⟨false, []⟩

/-- The trees being written are the pending writes replayed over the saved ones, and the lock
is the one tracked. -/
def Replays (q : Pending) (app : BaseApplication σ) : Prop :=
  app.state.working = replay B q.ops app.state.committed ∧ app.state.lock = q.lock

/-- One request keeps the trees being written the replay of the pending writes. -/
theorem handle_replays {q : Pending} {app : BaseApplication σ} (h : Replays B q app)
    (r : Request) :
  Replays B (pendingStep q r.erase) (app.handle B r).1
  := by
  obtain ⟨hw, hlock⟩ := h
  obtain ⟨lock, ops⟩ := q
  cases r with
  | beginBlock hd =>
      cases lock <;> simp_all [Replays, BaseApplication.handle, BaseApplication.beginBlock,
        Request.erase, pendingStep, replay, applyOp]
  | deliverTx t =>
      cases hv : B.validateAndDeliverTx t app.state.working <;> simp_all [Replays,
        BaseApplication.handle, BaseApplication.deliverTx, Request.erase, pendingStep, applyOp]
  | checkTx tx recheck =>
      simp only [BaseApplication.handle, BaseApplication.checkTx]
      split <;> exact ⟨hw, hlock⟩
  | initChain b => exact ⟨rfl, hlock⟩
  | commit => exact ⟨rfl, rfl⟩
  | info | endBlock | query | setOption => exact ⟨hw, hlock⟩

/-- Along every run from loaded trees, the trees being written are the pending writes replayed
over the saved ones, and the lock is the one `pending` tracks. -/
theorem run_replays (s : σ) (rs : List Request) :
  Replays B (pending (rs.map Request.erase)) ((BaseApplication.new s).run B rs)
  := by
  suffices ∀ q (app : BaseApplication σ), Replays B q app →
      Replays B ((rs.map Request.erase).foldl pendingStep q) (app.run B rs) from
    this _ _ ⟨rfl, rfl⟩
  induction rs with
  | nil => exact fun _ _ h => h
  | cons r rs ih => exact fun q app h => ih _ _ (handle_replays B h r)

/-! ### The lock in a run the consensus engine drives -/

/-- In phase `p`, the lock is held exactly while a block is open, the pending writes are all
those since the last save, and outside a block there are none. -/
def LockMatches (p : Phase) (q : Pending) (ops : List Op) : Prop :=
  q.lock = p.isOpen ∧ q.ops = ops ∧ (p.isOpen = false → ops = [])

/-- Every request the consensus connection may send keeps the lock matching the phase. -/
theorem lockMatches_step {p p' : Phase} {q : Pending} {ops : List Op} {r : Vochain.Request}
    (hr : p.next r = some p') (h : LockMatches p q ops) :
  LockMatches p' (pendingStep q r) (savedStep ops r)
  := by
  obtain ⟨lock, qops⟩ := q
  obtain ⟨hlock, hops, hempty⟩ := h
  simp only at hlock hops
  subst hlock hops
  cases r <;> cases p <;> cases hr <;>
    simp_all [LockMatches, pendingStep, savedStep, Phase.isOpen]

/-- After every run the consensus connection may send, the lock matches the phase reached. -/
theorem lockMatches_pending {rs : List Vochain.Request} {p : Phase}
    (hp : phaseAfter rs = some p) :
  LockMatches p (pending rs) (savedOps rs)
  := foldlM_preserves Phase.next LockMatches (fun _ _ _ _ _ => lockMatches_step)
    ⟨rfl, rfl, fun _ => rfl⟩ rs hp

/-- In every run the consensus engine can drive, `Lock` is held exactly while a block is open,
and outside a block the trees being written are the saved ones. -/
theorem lock_held_iff_block_open (s : σ) (rs : List Request) (p : Phase)
    (hp : phaseAfter (rs.map Request.erase) = some p) :
  ((BaseApplication.new s).run B rs).state.lock = p.isOpen ∧
    (p.isOpen = false →
      ((BaseApplication.new s).run B rs).state.working
        = ((BaseApplication.new s).run B rs).state.committed)
  := by
  obtain ⟨hw, hlock⟩ := run_replays B s rs
  obtain ⟨hl, hops, hempty⟩ := lockMatches_pending hp
  refine ⟨hlock.trans hl, fun hclosed => ?_⟩
  rw [hw, hops, hempty hclosed, replay_nil]

/-! ### What a `Commit` saves -/

/-- In every run the consensus engine can drive, a `Commit` saves the trees saved before with
every write made since replayed over them, those before an `Info` and those of a block begun
again without a `Commit` included, and answers the hash of what it saved. -/
theorem commit_saves_writes_since_save (s : σ) (pre : List Request)
    (hwf : Wellformed (pre.map Request.erase)) :
  let app := (BaseApplication.new s).run B pre
  let ops := savedOps (pre.map Request.erase)
  (app.handle B .commit).1.state.committed = replay B ops app.state.committed ∧
    (app.handle B .commit).2 = .commit (B.getHash (replay B ops app.state.committed))
  := by
  obtain ⟨p, hp⟩ := Option.isSome_iff_exists.mp hwf
  obtain ⟨hw, -⟩ := run_replays B s pre
  rw [(lockMatches_pending hp).2.1] at hw
  exact ⟨hw, by rw [← hw]; rfl⟩

/-- In the strict order with no `Info` inside a block, the application of part_000 has pending
exactly the writes since the last save. -/
theorem pendingOps_eq_savedOps {rs : List Vochain.Request} (hstrict : StrictlyOrdered rs)
    (hinfo : infoInBlock rs = false) :
  pendingOps rs = savedOps rs
  := by
  obtain ⟨p, hp⟩ := Option.isSome_iff_exists.mp hstrict
  rw [pendingOps_eq_blockOps rs hinfo]
  exact (foldlM_preserves Phase.nextStrict BlockMatches (fun _ _ _ _ _ => blockMatches_step)
    ⟨rfl, fun _ => rfl⟩ rs hp).1

/-- Both applications save the same writes: in the spec's strict order, with no `Info` inside
a block, the `Commit` of the application of part_000 and that of part_001 each replay the
writes since the last save over what they saved before, each with its own store. -/
theorem commits_agree_on_strict_runs {τ γ ℓ : Type} (B₀ : Vochain.Backend τ γ)
    (L : EventListener τ ℓ) (s₀ : τ) (l : ℓ) (s : σ) (pre : List Request)
    (hstrict : StrictlyOrdered (pre.map Request.erase))
    (hinfo : infoInBlock (pre.map Request.erase) = false) :
  let app₀ := (Vochain.BaseApplication.new s₀ l).run B₀ L (pre.map Request.erase)
  let app := (BaseApplication.new s).run B pre
  let ops := savedOps (pre.map Request.erase)
  (app₀.handle B₀ L .commit).1.state.committed
      = Vochain.replay B₀ ops app₀.state.committed ∧
    (app.handle B .commit).1.state.committed = replay B ops app.state.committed
  := by
  obtain ⟨p, hp⟩ := Option.isSome_iff_exists.mp hstrict
  have hw₀ : _ = _ := working_eq_replay B₀ L s₀ l (pre.map Request.erase)
  obtain ⟨hw, -⟩ := run_replays B s pre
  rw [pendingOps_eq_savedOps hstrict hinfo] at hw₀
  rw [(lockMatches_pending (foldlM_next_of_nextStrict _ hp)).2.1] at hw
  exact ⟨hw₀, hw⟩

/-- A backend whose trees count the writes made into them and which delivers every
transaction. -/
def countingBackend : Backend Nat where
  get _ _ := none
  set _ _ n := n + 1
  getHash n := [n.toUInt8]
  heightKey := []
  appHashKey := []
  marshalHeight _ := []
  unmarshalHeight _ := .ok 0
  unmarshalAppState _ := ⟨[], []⟩
  parseInt _ := 0
  addOracle _ n := n
  addValidator _ _ n := n
  validateTx _ _ := .ok ()
  validateAndDeliverTx _ n := .ok (n + 1)
  getEnvelope _ _ := .error "envelope not found"
  marshalVotePackage _ := .ok []
  countVotes _ _ := 0
  marshalVotes _ := .ok []
  getHeight _ := []
  unmarshalQuery _ := .error "unexpected end of JSON input"

/-- A block begun again without a `Commit`: the lock is still held. -/
theorem lock_held_iff_block_open_sample :
  let rs := [Request.initChain [], .beginBlock ⟨1, []⟩, .deliverTx [7], .beginBlock ⟨2, []⟩]
  let app := (BaseApplication.new 0).run countingBackend rs
  phaseAfter (rs.map Request.erase) = some .inBlock ∧ app.state.lock = Phase.isOpen .inBlock ∧
    (Phase.isOpen .inBlock = false → app.state.working = app.state.committed)
  := ⟨rfl, lock_held_iff_block_open countingBackend 0 _ .inBlock rfl⟩

/-- A block with an `Info` inside, begun again without a `Commit`: its `Commit` saves all
four writes. -/
theorem commit_saves_writes_since_save_sample :
  let pre := [Request.beginBlock ⟨1, []⟩, .deliverTx [7], .info, .beginBlock ⟨2, []⟩,
    .deliverTx [8], .endBlock]
  let app := (BaseApplication.new 0).run countingBackend pre
  let ops := savedOps (pre.map Request.erase)
  Wellformed (pre.map Request.erase) ∧
    ops = [.header ⟨1, []⟩, .tx [7], .header ⟨2, []⟩, .tx [8]] ∧
    (app.handle countingBackend .commit).1.state.committed
      = replay countingBackend ops app.state.committed ∧
    (app.handle countingBackend .commit).2
      = .commit (countingBackend.getHash (replay countingBackend ops app.state.committed))
  := ⟨by decide, rfl, commit_saves_writes_since_save countingBackend 0 _ (by decide)⟩

/-- One block of one transaction, on the counting backends of both applications. -/
theorem commits_agree_on_strict_runs_sample :
  let pre := [Request.beginBlock ⟨1, []⟩, .deliverTx [7], .endBlock]
  let app₀ := (Vochain.BaseApplication.new 0 ()).run Vochain.countingBackend silentListener
    (pre.map Request.erase)
  let app := (BaseApplication.new 0).run countingBackend pre
  let ops := savedOps (pre.map Request.erase)
  StrictlyOrdered (pre.map Request.erase) ∧ infoInBlock (pre.map Request.erase) = false ∧
    (app₀.handle Vochain.countingBackend silentListener .commit).1.state.committed
      = Vochain.replay Vochain.countingBackend ops app₀.state.committed ∧
    (app.handle countingBackend .commit).1.state.committed
      = replay countingBackend ops app.state.committed
  := ⟨by decide, rfl, commits_agree_on_strict_runs countingBackend Vochain.countingBackend
    silentListener 0 () 0 _ (by decide) rfl⟩

end Legacy

end Vochain
