import Dvote.Vochain.State

/-!
# The ABCI application

`BaseApplication` of `part_000`: the adapter that turns the consensus engine's calls into
operations on the vochain state.

* `Request` and `Response` are the ABCI calls the application answers and what it answers;
  `BaseApplication.handle` sends a request to the method of the same name, and `run` runs a
  sequence of requests.
* `Phase.next` is the order in which the consensus connection calls the methods: blocks
  `BeginBlock`, `DeliverTx`*, `EndBlock`, `Commit`, a block possibly begun again before its
  `Commit`, after an optional `InitChain`. `Info`, `Query`, `SetOption` and `CheckTx` come
  from the other connections, at any point. `Wellformed` runs are those it accepts.
-/

namespace Vochain

/-- An ABCI request, from any of the three connections. -/
inductive Request
  | info
  | initChain (appStateBytes : Bytes)
  | beginBlock (header : Header)
  | checkTx (tx : Bytes) (recheck : Bool)
  | deliverTx (tx : Bytes)
  | endBlock
  | commit
  | query
  | setOption
  deriving DecidableEq, Repr

/-- The fields of an ABCI response the application sets. -/
inductive Response
  | info (lastBlockHeight : Int) (lastBlockAppHash : Bytes)
  | initChain
  | beginBlock
  | setOption
  | checkTx (code : Nat) (data : Bytes)
  | deliverTx (code : Nat) (data : Bytes)
  | commit (data : Bytes)
  | query
  | endBlock
  deriving DecidableEq, Repr

/-- `BaseApplication`: the vochain state it drives. Its codec is part of the backend. -/
structure BaseApplication (σ ℓ : Type) where
  state : State σ ℓ

variable {σ γ ℓ : Type} (B : Backend σ γ) (L : EventListener σ ℓ)

namespace BaseApplication

/-- `NewBaseApplication` over a loaded state. -/
def new (s : σ) (l : ℓ) : BaseApplication σ ℓ := ⟨State.new s l⟩

/-- `Info`: the height of the working header, then `State.Rollback`, then the app hash of
the working set, which is now the committed snapshot. -/
def info (app : BaseApplication σ ℓ) : BaseApplication σ ℓ × Response :=
  let height := ((B.header app.state.working).map (·.height)).getD 0
  let st := app.state.rollback L
  (⟨st⟩, .info height (B.appHash st.working))

/-- `InitChain`: install the genesis oracles and validators, write the height-zero header,
and save. -/
def initChain (appStateBytes : Bytes) (app : BaseApplication σ ℓ) :
    BaseApplication σ ℓ × Response :=
  let genesis := B.unmarshalGenesis appStateBytes
  let w := genesis.validators.foldl (fun w v => B.addValidator v w)
    (genesis.oracles.foldl (fun w o => B.addOracle o w) app.state.working)
  let st := { app.state with working := w }.add B .appTree B.headerKey (B.marshalHeader ⟨0, []⟩)
  (⟨(st.save B L).1⟩, .initChain)

/-- `BeginBlock`: roll back to the committed snapshot, then write the block's header. -/
def beginBlock (header : Header) (app : BaseApplication σ ℓ) : BaseApplication σ ℓ × Response :=
  (⟨(app.state.rollback L).add B .appTree B.headerKey (B.marshalHeader header)⟩, .beginBlock)

/-- `CheckTx`: a recheck is accepted as it is; any other transaction is decoded and
validated against the committed snapshot, which it does not change. -/
def checkTx (tx : Bytes) (recheck : Bool) (app : BaseApplication σ ℓ) :
    BaseApplication σ ℓ × Response :=
  if recheck then (app, .checkTx 0 [])
  else
    match B.unmarshalTx tx with
    | .error e => (app, .checkTx 1 e.toUTF8.toList)
    | .ok t =>
        match B.checkTx t app.state.committed with
        | .error e => (app, .checkTx 1 e.toUTF8.toList)
        | .ok data => (app, .checkTx 0 data)

/-- `DeliverTx`: the transaction is decoded and applied to the working set. -/
def deliverTx (tx : Bytes) (app : BaseApplication σ ℓ) : BaseApplication σ ℓ × Response :=
  match B.unmarshalTx tx with
  | .error e => (app, .deliverTx 1 e.toUTF8.toList)
  | .ok t =>
      match app.state.addTx B L t with
      | .error e => (app, .deliverTx 1 e.toUTF8.toList)
      | .ok (data, st) => (⟨st⟩, .deliverTx 0 data)

/-- `Commit`: `State.Save`, whose app hash is the response's data. -/
def commit (app : BaseApplication σ ℓ) : BaseApplication σ ℓ × Response :=
  let r := app.state.save B L
  (⟨r.1⟩, .commit r.2)

/-- The method a request is answered by. `EndBlock`, `Query` and `SetOption` answer an empty
response and change nothing. -/
def handle (app : BaseApplication σ ℓ) : Request → BaseApplication σ ℓ × Response
  | .info => app.info B L
  | .initChain appStateBytes => app.initChain B L appStateBytes
  | .beginBlock header => app.beginBlock B L header
  | .checkTx tx recheck => app.checkTx B tx recheck
  | .deliverTx tx => app.deliverTx B L tx
  | .endBlock => (app, .endBlock)
  | .commit => app.commit B L
  | .query => (app, .query)
  | .setOption => (app, .setOption)

/-- The application after a run of requests. -/
def run (app : BaseApplication σ ℓ) (rs : List Request) : BaseApplication σ ℓ :=
  rs.foldl (fun a r => (a.handle B L r).1) app

@[simp] theorem run_nil (app : BaseApplication σ ℓ) :
  app.run B L [] = app
  := rfl

@[simp] theorem run_append (app : BaseApplication σ ℓ) (rs rs' : List Request) :
  app.run B L (rs ++ rs') = (app.run B L rs).run B L rs'
  := List.foldl_append _ _ _ _

@[simp] theorem run_cons (app : BaseApplication σ ℓ) (r : Request) (rs : List Request) :
  app.run B L (r :: rs) = (app.handle B L r).1.run B L rs
  := rfl

/-- What `DeliverTx t` writes into the working set `w`, and the events it raises there:
nothing and none when the transaction does not decode or is rejected. -/
def delivered (t : Bytes) (w : σ) : σ × List Event :=
  match B.unmarshalTx t with
  | .ok tx =>
      match B.addTx tx w with
      | .ok (_, w', evs) => (w', evs)
      | .error _ => (w, [])
  | .error _ => (w, [])

/-! ### What each request does to the state -/

section Handle

variable (app : BaseApplication σ ℓ)

@[simp] theorem handle_info_state :
  (app.handle B L .info).1.state = app.state.rollback L
  := rfl

@[simp] theorem handle_beginBlock_state (h : Header) :
  (app.handle B L (.beginBlock h)).1.state
    = (app.state.rollback L).add B .appTree B.headerKey (B.marshalHeader h)
  := rfl

@[simp] theorem handle_commit_state :
  (app.handle B L .commit).1.state = (app.state.save B L).1
  := rfl

/-- `InitChain` ends with a save: nothing is left pending. -/
theorem handle_initChain_committed (b : Bytes) :
  (app.handle B L (.initChain b)).1.state.committed = (app.handle B L (.initChain b)).1.state.working
  := rfl

/-- `DeliverTx` writes what `delivered` says and dispatches the raised events, in the state
they are raised in, to the listeners. -/
@[simp] theorem handle_deliverTx_state (t : Bytes) :
  (app.handle B L (.deliverTx t)).1.state
    = { app.state with
        working := (delivered B t app.state.working).1,
        listeners := (delivered B t app.state.working).2.foldl
          (fun l e => L.dispatch (delivered B t app.state.working).1 e l) app.state.listeners }
  := by
  simp only [handle, deliverTx, State.addTx, delivered]
  cases hu : B.unmarshalTx t with
  | error => rfl
  | ok tx =>
      cases ha : B.addTx tx app.state.working with
      | error => simp only [ha]; rfl
      | ok => simp only [ha]

@[simp] theorem handle_checkTx (tx : Bytes) (recheck : Bool) :
  (app.handle B L (.checkTx tx recheck)).1 = app
  := by
  simp only [handle, checkTx]
  split
  · rfl
  · split
    · rfl
    · split <;> rfl

@[simp] theorem handle_endBlock :
  (app.handle B L .endBlock).1 = app
  := rfl

@[simp] theorem handle_query :
  (app.handle B L .query).1 = app
  := rfl

@[simp] theorem handle_setOption :
  (app.handle B L .setOption).1 = app
  := rfl

end Handle

end BaseApplication

/-! ### The consensus connection's order -/

/-- Where the consensus connection is in the block lifecycle. -/
inductive Phase
  | genesis
  | between
  | inBlock
  | ended
  deriving DecidableEq, Repr

/-- The phase after a request, `none` when the consensus connection may not send it then. -/
def Phase.next : Phase → Request → Option Phase
  | p, .info | p, .query | p, .setOption | p, .checkTx _ _ => some p
  | .genesis, .initChain _ => some .between
  | _, .beginBlock _ => some .inBlock
  | .inBlock, .deliverTx _ => some .inBlock
  | .inBlock, .endBlock => some .ended
  | .ended, .commit => some .between
  | _, _ => none

/-- The phase after a run, `none` when the run breaks the consensus connection's order. -/
def phaseAfter (rs : List Request) : Option Phase := rs.foldlM Phase.next .genesis

/-- A run the consensus engine can drive. -/
def Wellformed (rs : List Request) : Prop := (phaseAfter rs).isSome

instance (rs : List Request) : Decidable (Wellformed rs) :=
  inferInstanceAs (Decidable ((phaseAfter rs).isSome = true))

end Vochain
