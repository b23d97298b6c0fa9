import Mathlib.Data.List.Nodup
import Dvote.Census.Import

/-!
# The census ids are the ids of the trees

`Consistent`: the census ids in `Census.Namespaces` are pairwise distinct, and they are
exactly the ids `Trees` has a tree for. `AddNamespace`, `DelNamespace`, every `Handler` request
and every iteration of the import daemon that does not panic keep it, whatever their storage
and tree operations answer (`perform_consistent`).

`Init` establishes it only when what it finds at `namespaces.json` loads completely
(`ConfigFile.Loads`). A namespace whose tree fails to initialise is kept without a tree, and a
file that fails to decode after its namespaces were decoded leaves them without trees
(`init_keeps_namespace_without_tree`).
-/

namespace Census

/-- What `Init` finds at `namespaces.json` lets it build a consistent manager: no file, an
unreadable one, one whose decoding failed before it set any namespace, or one that decodes
with distinct census ids whose trees all initialise in the storage directory. -/
def ConfigFile.Loads {τ : Type} (env : Env τ) (storage : String) : ConfigFile → Prop
  | .missing | .unreadable _ => True
  | .undecodable ns _ => ns.namespaces = []
  | .decoded ns => ns.names.Nodup ∧ ∀ n ∈ ns.namespaces, ∃ t, env.init storage n.name = .ok t

namespace Manager

variable {τ : Type} (env : Env τ)

/-- The invariant of the manager: its census ids are pairwise distinct, and they are exactly
the ids that have a tree. -/
structure Consistent (m : Manager τ) : Prop where
  nodup : m.census.names.Nodup
  isSome_trees : ∀ x, (m.trees x).isSome ↔ x ∈ m.census.names

/-! ### The tree `AddNamespace` answers -/

/-- When `AddNamespace` answers a tree, that tree is stored under the new census id. -/
theorem addNamespace_trees_of_ok {name : String} {pubKeys : List String} {m : Manager τ} {tr : τ}
    (h : (m.addNamespace env name pubKeys).2 = .ok tr) :
  (m.addNamespace env name pubKeys).1.trees name = some tr
  := by
  rcases addNamespace_cases env name pubKeys m with
    ⟨e, he⟩ | ⟨tr', -, -, ⟨-, he⟩ | ⟨e, -, he⟩⟩
  all_goals rw [he] at h ⊢
  · cases h
  · cases h
    simp
  · cases h

/-! ### Each operation keeps the invariant -/

section Keeps

variable {m : Manager τ} (h : Consistent m)
include h

theorem Consistent.setTree {name : String} (hname : (m.trees name).isSome) (tr : τ) :
  Consistent (m.setTree name tr)
  := by
  refine ⟨h.nodup, fun x => ?_⟩
  by_cases hx : x = name
  · subst hx
    simpa using (h.isSome_trees x).mp hname
  · simpa [hx] using h.isSome_trees x

theorem Consistent.insertNamespace {name : String} (hnone : m.trees name = none)
    (pubKeys : List String) (tr : τ) :
  Consistent (m.insertNamespace name pubKeys tr)
  := by
  have hnew : name ∉ m.census.names := fun hmem => by
    simpa [hnone] using (h.isSome_trees name).mpr hmem
  refine ⟨?_, fun x => ?_⟩
  · simpa [List.nodup_append, hnew] using h.nodup
  · by_cases hx : x = name
    · simp [hx]
    · simpa [hx] using h.isSome_trees x

theorem Consistent.addNamespace (name : String) (pubKeys : List String) :
  Consistent (m.addNamespace env name pubKeys).1
  := by
  rcases addNamespace_cases env name pubKeys m with
    ⟨e, he⟩ | ⟨tr, hnone, -, ⟨-, he⟩ | ⟨e, -, he⟩⟩
  all_goals rw [he]
  · exact h
  all_goals exact h.insertNamespace hnone pubKeys tr

theorem Consistent.delNamespace (name : String) :
  Consistent (m.delNamespace env name).1
  := by
  refine ⟨by simpa using h.nodup.erase name, fun x => ?_⟩
  rw [delNamespace_names, h.nodup.mem_erase_iff, delNamespace_trees]
  by_cases hx : x = name <;> simp [hx, h.isSome_trees x]

/-- What `AddNamespace` answers from a consistent manager: a consistent manager, which holds
the tree it answers under the new census id. -/
theorem Consistent.of_addNamespace_eq {name : String} {pubKeys : List String} {m' : Manager τ}
    {added : Except String τ} (heq : m.addNamespace env name pubKeys = (m', added)) :
  Consistent m' ∧ ∀ tr, added = .ok tr → m'.trees name = some tr
  := by
  have hadd := h.addNamespace env name pubKeys
  rw [heq] at hadd
  refine ⟨hadd, fun tr htr => ?_⟩
  have hok : (m.addNamespace env name pubKeys).2 = .ok tr → _ := addNamespace_trees_of_ok env
  simp only [heq, htr] at hok
  exact hok trivial

theorem Consistent.addPublished (root : String) (pubKeys claims : List String) :
  Consistent (m.addPublished env root pubKeys claims)
  := by
  unfold Manager.addPublished
  split
  · next m' added heq =>
      obtain ⟨hc, htree⟩ := h.of_addNamespace_eq env heq
      cases added with
      | error => exact hc
      | ok tr2 =>
          dsimp only
          split
          · exact hc
          · exact hc.setTree (by simp [htree tr2 rfl]) _

theorem Consistent.withRoot (r : MetaRequest) (authorized : Bool) (tr : τ) (resp : MetaResponse) :
  Consistent (withRoot env r authorized tr resp m).1
  := by
  unfold Manager.withRoot publish
  repeat' split
  all_goals first | exact h | exact h.addPublished env _ _ _

theorem Consistent.onTree (op : Method) (r : MetaRequest) (authorized : Bool) {tr : τ}
    (htr : m.trees r.censusID = some tr) (resp : MetaResponse) :
  Consistent (m.onTree env op r authorized tr resp).1
  := by
  have hsome : (m.trees r.censusID).isSome := by simp [htr]
  cases op
  case getRoot | checkProof => exact h
  case addClaimBulk | addClaim | importDump | importRemote => exact h.setTree hsome _
  all_goals exact h.withRoot env r authorized tr resp

theorem Consistent.handler (r : MetaRequest) (isAuth : Bool) (censusPrefix : String) :
  Consistent (m.handler env r isAuth censusPrefix).1
  := by
  unfold Manager.handler
  split
  · unfold addCensus
    split
    · split
      next m' added heq => split <;> exact (h.of_addNamespace_eq env heq).1
    · exact h
  · split
    · exact h
    · next tr htr => exact h.onTree env _ r _ htr _

theorem Consistent.importFetched (imp : CensusImport) (censusRaw : Bytes) :
  Consistent (m.importFetched env imp censusRaw)
  := by
  unfold Manager.importFetched
  split
  · exact h
  · split
    · exact h
    · split
      · exact h
      · split
        next m' added heq =>
          obtain ⟨hc, htree⟩ := h.of_addNamespace_eq env heq
          cases added with
          | error => exact hc
          | ok tr =>
              dsimp only
              split
              · exact hc
              · next _ tr' _ =>
                  have hset : Consistent (m'.setTree imp.censusID tr') :=
                    hc.setTree (by simp [htree tr rfl]) tr'
                  split
                  · exact hset.delNamespace env _
                  · exact hset

theorem Consistent.importQueueDaemonStep {imp : CensusImport} {m' : Manager τ}
    (hstep : m.importQueueDaemonStep env imp = some m') :
  Consistent m'
  := by
  unfold Manager.importQueueDaemonStep at hstep
  split at hstep
  · cases hstep
    exact h
  · split at hstep
    · cases hstep
    · obtain ⟨path, -, rfl⟩ := Option.map_eq_some'.mp hstep
      split
      · exact h
      · exact h.importFetched env imp _

end Keeps

/-! ### Runs of operations -/

/-- A call that changes the manager: from its callers, from `Handler`, or an iteration of
the import daemon. -/
inductive Operation
  | addNamespace (name : String) (pubKeys : List String)
  | delNamespace (name : String)
  | handler (r : MetaRequest) (isAuth : Bool) (censusPrefix : String)
  | importQueueDaemon (imp : CensusImport)

/-- The manager after an operation, `none` when it panics. -/
def perform (op : Operation) (m : Manager τ) : Option (Manager τ) :=
  match op with
  | .addNamespace name pubKeys => some (m.addNamespace env name pubKeys).1
  | .delNamespace name => some (m.delNamespace env name).1
  | .handler r isAuth censusPrefix => some (m.handler env r isAuth censusPrefix).1
  | .importQueueDaemon imp => m.importQueueDaemonStep env imp

/-- The manager after a run of operations, `none` once one panics. -/
def performAll : List Operation → Manager τ → Option (Manager τ)
  | [], m => some m
  | op :: ops, m => (m.perform env op).bind (performAll ops)

theorem Consistent.perform {m : Manager τ} (h : Consistent m) {op : Operation} {m' : Manager τ}
    (hop : m.perform env op = some m') :
  Consistent m'
  := by
  cases op with
  | addNamespace name pubKeys => cases hop; exact h.addNamespace env name pubKeys
  | delNamespace name => cases hop; exact h.delNamespace env name
  | handler r isAuth censusPrefix => cases hop; exact h.handler env r isAuth censusPrefix
  | importQueueDaemon imp => exact h.importQueueDaemonStep env hop

theorem Consistent.performAll {m : Manager τ} (h : Consistent m) (ops : List Operation)
    {m' : Manager τ} (hrun : m.performAll env ops = some m') :
  Consistent m'
  := by
  induction ops generalizing m with
  | nil =>
      cases hrun
      exact h
  | cons op ops ih =>
      obtain ⟨m₁, hop, hrest⟩ := Option.bind_eq_some.mp hrun
      exact ih (h.perform env hop) hrest

/-! ### `Init` -/

@[simp] theorem initTrees_census (nss : List Namespace) (m : Manager τ) :
  (initTrees env nss m).census = m.census
  := by
  induction nss generalizing m with
  | nil => rfl
  | cons n rest ih =>
      rw [initTrees, ih]
      split <;> rfl

/-- When every tree initialises, `Init`'s loop gives a tree to each of its namespaces. -/
theorem initTrees_isSome (nss : List Namespace) (m : Manager τ)
    (hinit : ∀ n ∈ nss, ∃ t, env.init m.storageDir n.name = .ok t) (x : String) :
  ((initTrees env nss m).trees x).isSome ↔ (m.trees x).isSome ∨ x ∈ nss.map (·.name)
  := by
  induction nss generalizing m with
  | nil => simp [initTrees]
  | cons n rest ih =>
      obtain ⟨t, ht⟩ := hinit n (.head _)
      rw [initTrees, ht]
      dsimp only
      rw [ih _ fun n' hn' => by simpa using hinit n' (.tail _ hn')]
      by_cases hx : x = n.name <;> simp [hx]

theorem init_consistent (cfg : ConfigFile) (storage rootKey : String)
    (hloads : cfg.Loads env storage) :
  Consistent (init env cfg storage rootKey).1
  := by
  cases cfg with
  | missing => exact ⟨List.nodup_nil, fun _ => by simp [init, Namespaces.names]⟩
  | unreadable => exact ⟨List.nodup_nil, fun _ => by simp [init, Namespaces.names]⟩
  | undecodable decoded =>
      have hnames : decoded.names = [] := by
        rw [Namespaces.names, show decoded.namespaces = [] from hloads, List.map_nil]
      exact ⟨by simp [init, hnames], fun _ => by simp [init, hnames]⟩
  | decoded ns =>
      obtain ⟨hnodup, hinit⟩ := hloads
      have hns : (if env.pubKeyLength ≤ rootKey.utf8ByteSize then { ns with rootKey }
          else ns).namespaces = ns.namespaces := by
        split <;> rfl
      refine ⟨by simpa [init, Namespaces.names, hns] using hnodup, fun x => ?_⟩
      simp only [init]
      rw [initTrees_isSome env _ _ (by simpa [hns] using hinit), initTrees_census]
      simp [Namespaces.names, hns]

/-- `Init` builds a consistent manager from every file that loads, and every operation that
does not panic keeps a manager consistent. -/
theorem init_and_operations_keep_consistent :
  (∀ cfg storage rootKey, cfg.Loads env storage → Consistent (init env cfg storage rootKey).1) ∧
    ∀ (op : Operation) (m m' : Manager τ), Consistent m → m.perform env op = some m' →
      Consistent m'
  := ⟨init_consistent env, fun _ _ _ h hop => h.perform env hop⟩

/-- A file with two namespaces whose trees initialise, and the deletion of `a` from the
manager `Init` builds from it. -/
theorem init_and_operations_keep_consistent_sample :
  let ns : Namespaces := ⟨"", [⟨"a", []⟩, ⟨"b", []⟩]⟩
  let m := (init (listEnv false) (.decoded ns) "" "").1
  (ConfigFile.decoded ns).Loads (listEnv false) "" ∧ Consistent m ∧
    ∃ m', m.perform (listEnv false) (.delNamespace "a") = some m' ∧ Consistent m'
  := by
  intro ns m
  have hloads : (ConfigFile.decoded ns).Loads (listEnv false) "" :=
    ⟨by decide, fun _ _ => ⟨[], rfl⟩⟩
  have hm : Consistent m := (init_and_operations_keep_consistent (listEnv false)).1 _ _ "" hloads
  exact ⟨hloads, hm, _, rfl,
    (init_and_operations_keep_consistent (listEnv false)).2 (.delNamespace "a") m _ hm rfl⟩

/-- A file with one namespace whose tree fails to initialise: `Init` keeps the namespace
without a tree. -/
theorem init_keeps_namespace_without_tree :
  let env : Env (List Bytes) :=
    { listEnv false with init := fun _ _ => .error "resource temporarily unavailable" }
  let ns : Namespaces := ⟨"", [⟨"a", []⟩]⟩
  ns.names.Nodup ∧ ¬ Consistent (init env (.decoded ns) "" "").1
  := ⟨by decide, fun h => absurd ((h.isSome_trees "a").mpr (by decide)) (by decide)⟩

/-- Along every run of operations from the manager `Init` builds from a file that loads, the
manager stays consistent. -/
theorem performAll_init_consistent (cfg : ConfigFile) (storage rootKey : String)
    (hloads : cfg.Loads env storage) (ops : List Operation) {m' : Manager τ}
    (hrun : (init env cfg storage rootKey).1.performAll env ops = some m') :
  Consistent m'
  := (init_consistent env cfg storage rootKey hloads).performAll env ops hrun

/-- A run from a file with the namespace `a`: add `b`, delete `a`, and create `c` through
`Handler`. -/
theorem performAll_init_consistent_sample :
  let ns : Namespaces := ⟨"", [⟨"a", []⟩]⟩
  let ops := [Operation.addNamespace "b" [], .delNamespace "a",
    .handler { method := "addCensus", censusID := "c" } true ""]
  (ConfigFile.decoded ns).Loads (listEnv false) "" ∧
    ∃ m', (init (listEnv false) (.decoded ns) "" "").1.performAll (listEnv false) ops = some m' ∧
      Consistent m'
  := by
  intro ns ops
  have hloads : (ConfigFile.decoded ns).Loads (listEnv false) "" :=
    ⟨by decide, fun _ _ => ⟨[], rfl⟩⟩
  exact ⟨hloads, _, rfl, performAll_init_consistent _ _ _ "" hloads ops rfl⟩

end Manager

end Census
