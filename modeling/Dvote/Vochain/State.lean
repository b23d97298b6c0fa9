import Dvote.Bytes

/-!
# The vochain state

The application of `part_000` drives a `State` it does not define: `vochain/state.go`, the
transaction layer (`UnmarshalTx`, `AddTx`) and the amino codec are not under src. This
module models them from the spec (§4.1, §4.2, §4.4) as far as the application's methods use
them.

* `State` holds the committed snapshot, the working set the consensus connection writes
  into, and the registered event listeners, seen together as one listener.
* `State.rollback` restores the working set to the committed snapshot and calls every
  listener's `Rollback`; `State.save` commits the working set, calls every listener's
  `Commit(height)` and returns the app hash.
* `Backend` collects the store, codec and transaction operations the methods call. Every
  result below holds for every backend, so for every outcome of those operations.
-/

namespace Vochain

/-- `types.Vote`, as the listeners receive it. -/
structure Vote where
  processID : Bytes
  nullifier : Bytes
  votePackage : Bytes
  deriving DecidableEq, Repr

/-- The fields of `types.Process` a listener reads. -/
structure Process where
  entityID : Bytes
  keyIndex : Int
  deriving DecidableEq, Repr

/-- The fields of `abcitypes.Header` the application sets or reads. -/
structure Header where
  height : Int
  appHash : Bytes
  deriving DecidableEq, Repr

/-- A genesis validator. -/
structure Validator where
  pubKey : Bytes
  power : Int
  deriving DecidableEq, Repr

/-- `types.GenesisAppState`. -/
structure GenesisAppState where
  oracles : List String
  validators : List Validator
  deriving DecidableEq, Repr

/-- The subtrees of the state store. -/
inductive TreeName
  | appTree
  | processTree
  | voteTree
  deriving DecidableEq, Repr

/-- An event a delivered transaction raises: one constructor per listener callback. -/
inductive Event
  | process (pid eid : Bytes) (mkroot mkuri : String)
  | vote (v : Vote)
  | cancel (pid : Bytes)
  | processKeys (pid : Bytes) (pub com : String)
  | revealKeys (pid : Bytes) (pub com : String)
  deriving DecidableEq, Repr

/-- Modelled from the spec: the capability set of an event listener (§4.4). Each callback
may read the vochain state `σ` it is called with. -/
structure EventListener (σ ℓ : Type) where
  onProcess : σ → Bytes → Bytes → String → String → ℓ → ℓ
  onVote : σ → Vote → ℓ → ℓ
  onCancel : σ → Bytes → ℓ → ℓ
  onProcessKeys : σ → Bytes → String → String → ℓ → ℓ
  onRevealKeys : σ → Bytes → String → String → ℓ → ℓ
  commit : σ → Int → ℓ → ℓ
  rollback : ℓ → ℓ

/-- The callback an event is dispatched to. -/
def EventListener.dispatch {σ ℓ : Type} (L : EventListener σ ℓ) (w : σ) : Event → ℓ → ℓ
  | .process pid eid mkroot mkuri => L.onProcess w pid eid mkroot mkuri
  | .vote v => L.onVote w v
  | .cancel pid => L.onCancel w pid
  | .processKeys pid pub com => L.onProcessKeys w pid pub com
  | .revealKeys pid pub com => L.onRevealKeys w pid pub com

/-- Modelled from the spec: the merkle store (§4.1), the amino codec and the transaction
layer (§4.2) as the application calls them. `σ` is a store, `γ` a decoded transaction.
`addTx` is `AddTx(tx, state, true)` on the working set: on success it returns the response
data, the new working set and the events the transaction raised; a rejected transaction
writes nothing. `checkTx` is `AddTx(tx, state, false)`, which reads the committed snapshot
and writes nothing. `process` is `State.Process(pid, false)`. -/
structure Backend (σ γ : Type) where
  add : TreeName → Bytes → Bytes → σ → σ
  appHash : σ → Bytes
  header : σ → Option Header
  headerKey : Bytes
  marshalHeader : Header → Bytes
  unmarshalGenesis : Bytes → GenesisAppState
  addOracle : String → σ → σ
  addValidator : Validator → σ → σ
  unmarshalTx : Bytes → Except String γ
  addTx : γ → σ → Except String (Bytes × σ × List Event)
  checkTx : γ → σ → Except String Bytes
  process : σ → Bytes → Except String Process

/-- Modelled from the spec: `vochain.State`, a committed snapshot, the working set written
since, and the registered listeners. -/
structure State (σ ℓ : Type) where
  committed : σ
  working : σ
  listeners : ℓ

variable {σ γ ℓ : Type}

namespace State

/-- The state `NewState` loads: nothing pending over the stored snapshot. -/
def new (s : σ) (l : ℓ) : State σ ℓ := ⟨s, s, l⟩

/-- Modelled from the spec: `State.Rollback` discards the working set and calls every
listener's `Rollback`. -/
def rollback (L : EventListener σ ℓ) (st : State σ ℓ) : State σ ℓ :=
  { st with working := st.committed, listeners := L.rollback st.listeners }

/-- The height of the header in the working set, `0` when there is none. -/
def height (B : Backend σ γ) (st : State σ ℓ) : Int :=
  ((B.header st.working).map (·.height)).getD 0

/-- Modelled from the spec: `State.Save` commits the working set, calls every listener's
`Commit(height)` and returns the app hash of what it committed. -/
def save (B : Backend σ γ) (L : EventListener σ ℓ) (st : State σ ℓ) : State σ ℓ × Bytes :=
  ({ st with committed := st.working,
             listeners := L.commit st.working (st.height B) st.listeners },
   B.appHash st.working)

/-- `State.Store.Tree(t).Add(key, value)`: a write into the working set. -/
def add (B : Backend σ γ) (t : TreeName) (key value : Bytes) (st : State σ ℓ) : State σ ℓ :=
  { st with working := B.add t key value st.working }

/-- `AddTx(tx, state, true)`: the transaction is applied to the working set and, once it
is, every event it raised is dispatched to the listeners in order. -/
def addTx (B : Backend σ γ) (L : EventListener σ ℓ) (tx : γ) (st : State σ ℓ) :
    Except String (Bytes × State σ ℓ) :=
  match B.addTx tx st.working with
  | .ok (data, w, evs) =>
      .ok (data, { st with working := w,
                           listeners := evs.foldl (fun l e => L.dispatch w e l) st.listeners })
  | .error e => .error e

@[simp] theorem rollback_working (L : EventListener σ ℓ) (st : State σ ℓ) :
  (st.rollback L).working = st.committed
  := rfl

@[simp] theorem rollback_committed (L : EventListener σ ℓ) (st : State σ ℓ) :
  (st.rollback L).committed = st.committed
  := rfl

@[simp] theorem rollback_listeners (L : EventListener σ ℓ) (st : State σ ℓ) :
  (st.rollback L).listeners = L.rollback st.listeners
  := rfl

@[simp] theorem save_committed (B : Backend σ γ) (L : EventListener σ ℓ) (st : State σ ℓ) :
  (st.save B L).1.committed = st.working
  := rfl

@[simp] theorem save_working (B : Backend σ γ) (L : EventListener σ ℓ) (st : State σ ℓ) :
  (st.save B L).1.working = st.working
  := rfl

@[simp] theorem save_listeners (B : Backend σ γ) (L : EventListener σ ℓ) (st : State σ ℓ) :
  (st.save B L).1.listeners = L.commit st.working (st.height B) st.listeners
  := rfl

@[simp] theorem add_committed (B : Backend σ γ) (t : TreeName) (k v : Bytes) (st : State σ ℓ) :
  (st.add B t k v).committed = st.committed
  := rfl

@[simp] theorem add_working (B : Backend σ γ) (t : TreeName) (k v : Bytes) (st : State σ ℓ) :
  (st.add B t k v).working = B.add t k v st.working
  := rfl

@[simp] theorem add_listeners (B : Backend σ γ) (t : TreeName) (k v : Bytes) (st : State σ ℓ) :
  (st.add B t k v).listeners = st.listeners
  := rfl

/-- What a successful `AddTx` does: it replaces the working set with the backend's result
and dispatches the raised events; the committed snapshot is untouched. -/
theorem addTx_eq_ok {B : Backend σ γ} {L : EventListener σ ℓ} {tx : γ} {st : State σ ℓ}
    {data : Bytes} {st' : State σ ℓ} (h : st.addTx B L tx = .ok (data, st')) :
  ∃ w evs, B.addTx tx st.working = .ok (data, w, evs) ∧
    st' = { st with working := w,
                    listeners := evs.foldl (fun l e => L.dispatch w e l) st.listeners }
  := by
  unfold addTx at h
  split at h
  · cases h
    exact ⟨_, _, ‹_›, rfl⟩
  · cases h

end State

end Vochain
