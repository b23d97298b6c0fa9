import Dvote.Census.Handler

/-!
# The import queue daemon

`importQueueDaemon` takes the census imports queued by `AddToImportQueue` one at a time. An
iteration skips a census id that already has a tree; otherwise it fetches the dump at the
census URI from the storage, checks it, adds a namespace for it with no keys and imports the
dump, and removes the namespace again when the imported tree's root is not the census id.

The iteration slices the URI after the storage's prefix without checking that the URI is
that long, which `Handler`'s `importRemote` does check. So an iteration on a new census id
panics when there is no storage or the URI is shorter than the prefix, as a URI `ipfs` does
under the IPFS prefix `ipfs://` (`importQueueDaemonStep_short_uri_panics`).

Along a run that does not panic, the daemon leaves every census id that has a tree as it is,
and leaves under a new one nothing, an imported tree whose root is the census id, or the fresh
tree `AddNamespace` made for an import that failed after it, which nothing removes
(`importQueueDaemon_keeps_or_imports`). The run's invariant is `ImportsOnly`, a reflexive and
transitive relation between the manager before and after that each iteration establishes.
-/

namespace Census

/-- `censusImport`: a census id and the URI to fetch it from. -/
structure CensusImport where
  censusID : String
  censusURI : String
  deriving DecidableEq, Repr

namespace Manager

variable {τ : Type} (env : Env τ)

/-- The end of an iteration, once the census is fetched: the dump must decode, have the census
id as its root and hold claims; then a namespace without keys is added for it, the dump is
loaded into its tree, and the namespace is deleted again when the tree's root differs. Every
error is only logged. -/
def importFetched (imp : CensusImport) (censusRaw : Bytes) (m : Manager τ) : Manager τ :=
  match env.decodeDump censusRaw with
  | .error _ => m
  | .ok dump =>
      if dump.rootHash ≠ imp.censusID then m
      else if dump.claimsData.length = 0 then m
      else
        let (m, added) := m.addNamespace env imp.censusID []
        match added with
        | .error _ => m
        | .ok tr =>
            match env.importDump dump.claimsData tr with
            | .error _ => m
            | .ok tr =>
                let m := m.setTree imp.censusID tr
                if env.root tr ≠ dump.rootHash then (m.delNamespace env imp.censusID).1 else m

/-- One iteration of `importQueueDaemon`, `none` when it panics: calling `Retrieve` on a nil
storage, or slicing the URI past its end. -/
def importQueueDaemonStep (imp : CensusImport) (m : Manager τ) : Option (Manager τ) :=
  if (m.trees imp.censusID).isSome then some m
  else
    match env.storage with
    | none => none
    | some st =>
        (sliceFrom imp.censusURI st.uriPrefix.utf8ByteSize).map fun path =>
          match st.retrieve path with
          | .error _ => m
          | .ok censusRaw => m.importFetched env imp censusRaw

/-- `importQueueDaemon` over the imports taken from the queue, in order: `none` once an
iteration panics. -/
def importQueueDaemon : List CensusImport → Manager τ → Option (Manager τ)
  | [], m => some m
  | imp :: rest, m => (m.importQueueDaemonStep env imp).bind (importQueueDaemon rest)

/-! ### What the daemon changes -/

/-- What a run of the daemon may do to a manager: the storage directory stays; a census id with
a tree keeps it and the namespaces named by it; and a census id without a tree either still has
none, or has a tree whose root is the census id, or has the fresh tree of the storage directory
that `AddNamespace` made for an import that failed after it. -/
structure ImportsOnly (m m' : Manager τ) : Prop where
  storageDir : m'.storageDir = m.storageDir
  keeps : ∀ x t, m.trees x = some t → m'.trees x = some t ∧
    m'.census.namespaces.filter (·.name = x) = m.census.namespaces.filter (·.name = x)
  imports : ∀ x t, m.trees x = none → m'.trees x = some t →
    env.root t = x ∨ env.init m.storageDir x = .ok t

theorem ImportsOnly.refl (m : Manager τ) :
  ImportsOnly env m m
  := ⟨rfl, fun _ _ h => ⟨h, rfl⟩, fun _ _ h h' => by simp [h] at h'⟩

theorem ImportsOnly.trans {m₁ m₂ m₃ : Manager τ} (h₁ : ImportsOnly env m₁ m₂)
    (h₂ : ImportsOnly env m₂ m₃) :
  ImportsOnly env m₁ m₃
  := by
  refine ⟨h₂.storageDir.trans h₁.storageDir, fun x t ht => ?_, fun x t hnone ht => ?_⟩
  · obtain ⟨ht₂, hns₂⟩ := h₁.keeps x t ht
    obtain ⟨ht₃, hns₃⟩ := h₂.keeps x t ht₂
    exact ⟨ht₃, hns₃.trans hns₂⟩
  · cases h₂t : m₂.trees x with
    | none => exact h₁.storageDir ▸ h₂.imports x t h₂t ht
    | some t₂ =>
        -- the tree the first part gave `x` is kept by the second
        rw [(h₂.keeps x t₂ h₂t).1, Option.some.injEq] at ht
        subst ht
        exact h₁.imports x _ hnone h₂t

/-- A change confined to a census id `cid` without a tree is one the daemon may make, when the
tree it leaves under `cid`, if any, is imported or fresh. -/
theorem ImportsOnly.of_confined {cid : String} {m m' : Manager τ} (hnone : m.trees cid = none)
    (hdir : m'.storageDir = m.storageDir)
    (hoff : ∀ x, x ≠ cid → m'.trees x = m.trees x ∧
      m'.census.namespaces.filter (·.name = x) = m.census.namespaces.filter (·.name = x))
    (hcid : ∀ t, m'.trees cid = some t → env.root t = cid ∨ env.init m.storageDir cid = .ok t) :
  ImportsOnly env m m'
  := by
  refine ⟨hdir, fun x t ht => ?_, fun x t hx ht => ?_⟩
  · have hx : x ≠ cid := by
      rintro rfl
      simp [hnone] at ht
    exact ⟨(hoff x hx).1.trans ht, (hoff x hx).2⟩
  · by_cases hxc : x = cid
    · subst hxc
      exact hcid t ht
    · rw [(hoff x hxc).1, hx] at ht
      cases ht

/-- `AddNamespace` on a census id without a tree adds its fresh tree. -/
theorem ImportsOnly.insertNamespace {cid : String} {m : Manager τ} {t₀ : τ}
    (hnone : m.trees cid = none) (hinit : env.init m.storageDir cid = .ok t₀) :
  ImportsOnly env m (m.insertNamespace cid [] t₀)
  := .of_confined env hnone rfl (fun x hx => by simp [hx, Ne.symm hx])
    fun t ht => .inr (by simpa [hinit] using ht)

/-- The end of an iteration on a census id without a tree: nothing changes, or the namespace is
added with its fresh tree, which is then replaced by the imported tree when its root is the
census id, and removed with it otherwise. -/
theorem importFetched_importsOnly (imp : CensusImport) (censusRaw : Bytes) {m : Manager τ}
    (hnone : m.trees imp.censusID = none) :
  ImportsOnly env m (m.importFetched env imp censusRaw)
  := by
  unfold importFetched
  split
  · exact .refl env m
  · next dump _ =>
      split
      · exact .refl env m
      · next hroot =>
          split
          · exact .refl env m
          · rcases addNamespace_cases env imp.censusID [] m with
              ⟨e, he⟩ | ⟨t₀, -, hinit, ⟨-, he⟩ | ⟨e, -, he⟩⟩
            all_goals simp only [he]
            · exact .refl env m
            · split
              · -- the dump fails to import: the fresh tree stays
                exact .insertNamespace env hnone hinit
              · next tr _ =>
                  split
                  · -- the imported root differs: the namespace goes, with its tree
                    refine .of_confined env hnone (by simp) (fun x hx => ?_) (fun t ht => ?_)
                    · simp [hx, Ne.symm hx, filter_eraseP_of_ne]
                    · simp at ht
                  · next hsame =>
                      refine .of_confined env hnone rfl (fun x hx => by simp [hx, Ne.symm hx])
                        fun t ht => ?_
                      simp only [setTree_trees, if_true, Option.some.injEq] at ht
                      exact .inl (ht ▸ (not_not.mp hsame).trans (not_not.mp hroot))
            · -- `save` fails: the fresh tree stays
              exact .insertNamespace env hnone hinit

theorem importQueueDaemonStep_importsOnly {imp : CensusImport} {m m' : Manager τ}
    (hstep : m.importQueueDaemonStep env imp = some m') :
  ImportsOnly env m m'
  := by
  unfold importQueueDaemonStep at hstep
  split at hstep
  · cases hstep
    exact .refl env m
  · next hnone =>
      split at hstep
      · cases hstep
      · obtain ⟨path, -, rfl⟩ := Option.map_eq_some'.mp hstep
        split
        · exact .refl env m
        · exact importFetched_importsOnly env imp _ (Option.not_isSome_iff_eq_none.mp hnone)

theorem importQueueDaemon_importsOnly (queue : List CensusImport) {m m' : Manager τ}
    (hrun : m.importQueueDaemon env queue = some m') :
  ImportsOnly env m m'
  := by
  induction queue generalizing m with
  | nil =>
      cases hrun
      exact .refl env _
  | cons imp queue ih =>
      obtain ⟨m₁, hstep, hrest⟩ := Option.bind_eq_some.mp hrun
      exact (importQueueDaemonStep_importsOnly env hstep).trans env (ih hrest)

/-- The IPFS storage of `data`, whose prefix is `ipfs://`, holding nothing. -/
def ipfsEnv : Env (List Bytes) :=
  { listEnv false with
    storage := some ⟨"ipfs://", fun _ => .error "no link named", fun _ => .error "offline"⟩ }

/-- An import of a new census from the URI `ipfs` panics. -/
theorem importQueueDaemonStep_short_uri_panics :
  empty.importQueueDaemonStep ipfsEnv ⟨"r", "ipfs"⟩ = none
  := rfl

/-- A storage under `ipfs://` that serves the one dump it publishes, under the content id
`Q`, and a JSON codec that reads that dump back. -/
def publishingEnv : Env (List Bytes) :=
  { listEnv false with
    root := fun _ => "r"
    dump := fun _ _ => .ok ["c"]
    marshalDump := fun _ => .ok [1]
    decodeDump := fun b => if b = [1] then .ok ⟨"r", ["c"]⟩ else .error "invalid character"
    storage := some ⟨"ipfs://",
      fun path => if path = [81] then .ok [1] else .error "no link named", fun _ => .ok "Q"⟩ }

end Manager

end Census
