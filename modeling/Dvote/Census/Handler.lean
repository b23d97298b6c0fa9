import Dvote.Census.Manager

/-!
# The census request handler

`Manager.Handler(r, isAuth, censusPrefix)`: `addCensus` creates a namespace; every other
method works on the tree of `r.CensusID`. `getRoot`, `addClaimBulk`, `addClaim`,
`importDump`, `importRemote` and `checkProof` use that tree; the others first take a snapshot
of it when `r.RootHash` is given (`withRoot`). The private methods require `isAuth` and, when a
`censusPrefix` is given, a census id that starts with it.

Each method is a function of its own. One that changes a tree returns it, and `handler`
stores it back under the census id, as Go's methods change the tree in place.

A failed request leaves the manager as it was, except an `addCensus` that added its namespace
and then failed to save it, and an authorised `addClaim` whose claim does not decode, which goes
on to add what was decoded of it (`handler_error_keeps_manager`). A bulk addition reports, in
order, exactly the indexes of the claims that fail to decode or to be added, and leaves the tree
with only the other claims added (`addClaimBulk_reports_failed`).
-/

namespace Census

/-- The methods `Handler` tells apart, by the name in `r.Method`. -/
inductive Method
  | addCensus
  | getRoot
  | addClaimBulk
  | addClaim
  | importDump
  | importRemote
  | checkProof
  | genProof
  | getSize
  | dump
  | dumpPlain
  | publish
  | other
  deriving DecidableEq, Repr

/-- The method a request names. -/
def Method.ofString : String → Method
  | "addCensus" => .addCensus
  | "getRoot" => .getRoot
  | "addClaimBulk" => .addClaimBulk
  | "addClaim" => .addClaim
  | "importDump" => .importDump
  | "importRemote" => .importRemote
  | "checkProof" => .checkProof
  | "genProof" => .genProof
  | "getSize" => .getSize
  | "dump" => .dump
  | "dumpPlain" => .dumpPlain
  | "publish" => .publish
  | _ => .other

namespace Manager

variable {τ : Type} (env : Env τ)

/-! ### Methods on the tree of the census id -/

/-- The loop of `addClaimBulk`: each claim is decoded and added, and the index of each one
that fails to decode or to be added is collected. -/
def addClaimsLoop (tr : τ) (invalid : List Nat) : List (Nat × String) → τ × List Nat
  | [] => (tr, invalid)
  | (i, c) :: rest =>
      let added := match env.decodeBase64 c with
        | (data, none) => env.addClaim data tr
        | (_, some e) => .error e
      match added with
      | .ok tr => addClaimsLoop tr invalid rest
      | .error _ => addClaimsLoop tr (invalid ++ [i]) rest

/-- `addClaimBulk`: the claims that fail are listed in the response, which does not fail. -/
def addClaimBulk (r : MetaRequest) (authorized : Bool) (tr : τ) (resp : MetaResponse) :
    τ × MetaResponse :=
  if authorized then
    let (tr, invalid) := addClaimsLoop env tr [] r.claimsData.enum
    (tr, if invalid.length > 0 then { resp with invalidClaims := invalid } else resp)
  else (tr, resp.setError "invalid authentication")

/-- `addClaim`. A claim that fails to decode sets the error, and the handler goes on to add
what was decoded of it. -/
def addClaim (r : MetaRequest) (authorized : Bool) (tr : τ) (resp : MetaResponse) :
    τ × MetaResponse :=
  if authorized then
    let (data, err) := env.decodeBase64 r.claimData
    let resp := match err with
      | some e => resp.setError e
      | none => resp
    match env.addClaim data tr with
    | .error e => (tr, resp.setError e)
    | .ok tr => (tr, resp)
  else (tr, resp.setError "invalid authentication")

/-- `importDump`: an empty dump is not imported. -/
def importDump (r : MetaRequest) (authorized : Bool) (tr : τ) (resp : MetaResponse) :
    τ × MetaResponse :=
  if authorized then
    if r.claimsData.length > 0 then
      match env.importDump r.claimsData tr with
      | .error e => (tr, resp.setError e)
      | .ok tr => (tr, resp)
    else (tr, resp)
  else (tr, resp.setError "invalid authentication")

/-- `importRemote`: retrieve a dump from the storage and import it. The URI must start with
the storage's prefix and be longer than it, which keeps the slice after the prefix in
range. -/
def importRemote (r : MetaRequest) (authorized : Bool) (tr : τ) (resp : MetaResponse) :
    τ × MetaResponse :=
  if !authorized then (tr, resp.setError "invalid authentication")
  else
    match env.storage with
    | none => (tr, resp.setError "not supported")
    | some st =>
        if !st.uriPrefix.isPrefixOf r.uri || r.uri.utf8ByteSize ≤ st.uriPrefix.utf8ByteSize then
          (tr, resp.setError "URI not supported")
        else
          match st.retrieve (bytesFrom r.uri st.uriPrefix.utf8ByteSize) with
          | .error _ => (tr, resp.setError "cannot retrieve census")
          | .ok raw =>
              match env.decodeDump raw with
              | .error _ => (tr, resp.setError "retrieved census do not have a correct format")
              | .ok dump =>
                  if dump.claimsData.length > 0 then
                    match env.importDump dump.claimsData tr with
                    | .error _ => (tr, resp.setError "error importing census")
                    | .ok tr => (tr, resp)
                  else (tr, resp.setError "no claims found")

/-- `checkProof`, against `r.RootHash` or else the tree's root. -/
def checkProof (r : MetaRequest) (tr : τ) (resp : MetaResponse) : MetaResponse :=
  if r.proofData.utf8ByteSize < 1 then resp.setError "proofData not provided"
  else
    let root := if r.rootHash.utf8ByteSize < 1 then env.root tr else r.rootHash
    match env.decodeBase64 r.claimData with
    | (_, some e) => resp.setError e
    | (data, none) =>
        match env.checkProof root r.proofData data with
        | .error e => resp.setError e
        | .ok validProof => { resp with validProof }

/-! ### Methods on a snapshot -/

/-- `genProof`. -/
def genProof (r : MetaRequest) (tr : τ) (resp : MetaResponse) : MetaResponse :=
  match env.decodeBase64 r.claimData with
  | (_, some e) => resp.setError e
  | (data, none) =>
      match env.genProof data tr with
      | .error e => resp.setError e
      | .ok siblings => { resp with siblings }

/-- `getSize`, at the tree's root. -/
def getSize (tr : τ) (resp : MetaResponse) : MetaResponse :=
  match env.size (env.root tr) tr with
  | .error e => resp.setError e
  | .ok size => { resp with size }

/-- `dump` and, when `plain`, `dumpPlain`, at `r.RootHash` or else the tree's root. -/
def dump (plain : Bool) (r : MetaRequest) (authorized : Bool) (tr : τ) (resp : MetaResponse) :
    MetaResponse :=
  if !authorized then resp.setError "invalid authentication"
  else
    let root := if r.rootHash.utf8ByteSize < 1 then env.root tr else r.rootHash
    match (if plain then env.dumpPlain root tr else env.dump root tr) with
    | .error e => resp.setError e
    | .ok claimsData => { resp with claimsData }

/-- The end of `publish`: the published census as a namespace named by its root, with the
dump imported into it. Both steps only log their errors. -/
def addPublished (root : String) (pubKeys claims : List String) (m : Manager τ) : Manager τ :=
  let (m, added) := m.addNamespace env root pubKeys
  match added with
  | .error _ => m
  | .ok tr2 =>
      match env.importDump claims tr2 with
      | .error _ => m
      | .ok tr2 => m.setTree root tr2

/-- `publish`: publish the tree's dump to the storage, then add it as a namespace
(`addPublished`). -/
def publish (r : MetaRequest) (authorized : Bool) (tr : τ) (resp : MetaResponse)
    (m : Manager τ) : Manager τ × MetaResponse :=
  if !authorized then (m, resp.setError "invalid authentication")
  else
    match env.storage with
    | none => (m, resp.setError "not supported")
    | some st =>
        match env.dump (env.root tr) tr with
        | .error e => (m, resp.setError e)
        | .ok claims =>
            match env.marshalDump ⟨env.root tr, claims⟩ with
            | .error e => (m, resp.setError e)
            | .ok dumpBytes =>
                match st.publish dumpBytes with
                | .error e => (m, resp.setError e)
                | .ok cid =>
                    let resp := { resp with uri := st.uriPrefix ++ cid, root := env.root tr }
                    (m.addPublished env resp.root r.pubKeys claims, resp)

/-- The methods that may name a root hash: on a snapshot at `r.RootHash` when it has more than
one character, else on the tree itself. Any other method answers the response as it is. -/
def withRoot (r : MetaRequest) (authorized : Bool) (tr : τ) (resp : MetaResponse)
    (m : Manager τ) : Manager τ × MetaResponse :=
  match (if r.rootHash.utf8ByteSize > 1 then env.snapshot r.rootHash tr else .ok tr) with
  | .error _ => (m, resp.setError "invalid root hash")
  | .ok tr =>
      match Method.ofString r.method with
      | .genProof => (m, genProof env r tr resp)
      | .getSize => (m, getSize env tr resp)
      | .dump => (m, dump env false r authorized tr resp)
      | .dumpPlain => (m, dump env true r authorized tr resp)
      | .publish => publish env r authorized tr resp m
      | _ => (m, resp)

/-! ### The handler -/

/-- `addCensus`: a namespace named `censusPrefix ++ r.CensusID`, managed by `r.PubKeys`. -/
def addCensus (r : MetaRequest) (isAuth : Bool) (censusPrefix : String) (resp : MetaResponse)
    (m : Manager τ) : Manager τ × MetaResponse :=
  if isAuth then
    let (m, added) := m.addNamespace env (censusPrefix ++ r.censusID) r.pubKeys
    match added with
    | .error e => (m, resp.setError e)
    | .ok _ => (m, { resp with censusID := censusPrefix ++ r.censusID })
  else (m, resp.setError "invalid authentication")

/-- Whether the census id is open to a caller authorised for `censusPrefix`: every id when
the prefix is empty. -/
def validAuthPrefix (censusPrefix censusID : String) : Bool :=
  if censusPrefix.utf8ByteSize = 0 then true else censusPrefix.isPrefixOf censusID

/-- The methods on the tree `tr` of the census id. A method that changes the tree has it
stored back under the census id. -/
def onTree (op : Method) (r : MetaRequest) (authorized : Bool) (tr : τ) (resp : MetaResponse)
    (m : Manager τ) : Manager τ × MetaResponse :=
  let store (p : τ × MetaResponse) := (m.setTree r.censusID p.1, p.2)
  match op with
  | .getRoot => (m, { resp with root := env.root tr })
  | .addClaimBulk => store (addClaimBulk env r authorized tr resp)
  | .addClaim => store (addClaim env r authorized tr resp)
  | .importDump => store (importDump env r authorized tr resp)
  | .importRemote => store (importRemote env r authorized tr resp)
  | .checkProof => (m, checkProof env r tr resp)
  | _ => withRoot env r authorized tr resp m

/-- `Handler(r, isAuth, censusPrefix)`: the manager after the request, and the response. -/
def handler (r : MetaRequest) (isAuth : Bool) (censusPrefix : String) (m : Manager τ) :
    Manager τ × MetaResponse :=
  let resp : MetaResponse := { ok := true, timestamp := toInt32 env.now }
  if Method.ofString r.method = .addCensus then m.addCensus env r isAuth censusPrefix resp
  else
    match m.trees r.censusID with
    | none => (m, resp.setError "censusId not valid or not found")
    | some tr => m.onTree env (Method.ofString r.method) r
        (isAuth && validAuthPrefix censusPrefix r.censusID) tr resp

/-! ### What a failed request leaves -/

/-- A method's result that fails leaves the tree it was given. -/
def KeepsOnError (tr : τ) (p : τ × MetaResponse) : Prop := p.2.ok = false → p.1 = tr

/-- Storing back the tree a failed method returns leaves the manager. -/
theorem setTree_of_keepsOnError {m : Manager τ} {name : String} {tr : τ} {p : τ × MetaResponse}
    (htr : m.trees name = some tr) (hp : KeepsOnError tr p) (hfail : p.2.ok = false) :
  m.setTree name p.1 = m
  := by
  rw [hp hfail]
  exact setTree_self htr

section KeepsOnError

variable (r : MetaRequest) (authorized : Bool) (tr : τ) {resp : MetaResponse}
  (hresp : resp.ok = true)
include hresp

theorem addClaimBulk_keepsOnError :
  KeepsOnError tr (addClaimBulk env r authorized tr resp)
  := by
  unfold addClaimBulk KeepsOnError
  repeat' split
  all_goals first | exact fun _ => rfl | simp [hresp]

/-- A failed `addClaim` leaves the tree, unless its claim failed to decode and the tree took
what was decoded of it. -/
theorem addClaim_error (hfail : (addClaim env r authorized tr resp).2.ok = false) :
  (addClaim env r authorized tr resp).1 = tr ∨
    authorized = true ∧ ∃ data e tr', env.decodeBase64 r.claimData = (data, some e) ∧
      env.addClaim data tr = .ok tr' ∧ (addClaim env r authorized tr resp).1 = tr'
  := by
  cases authorized
  · exact .inl rfl
  rcases hd : env.decodeBase64 r.claimData with ⟨data, _ | e⟩ <;>
    cases hadd : env.addClaim data tr <;> simp_all [addClaim]

theorem importDump_keepsOnError :
  KeepsOnError tr (importDump env r authorized tr resp)
  := by
  unfold importDump KeepsOnError
  repeat' split
  all_goals first | exact fun _ => rfl | simp [hresp]

theorem importRemote_keepsOnError :
  KeepsOnError tr (importRemote env r authorized tr resp)
  := by
  unfold importRemote KeepsOnError
  repeat' split
  all_goals first | exact fun _ => rfl | simp [hresp]

/-- The methods on a snapshot change the manager only when they succeed. -/
theorem withRoot_keepsOnError (m : Manager τ)
    (hfail : (withRoot env r authorized tr resp m).2.ok = false) :
  (withRoot env r authorized tr resp m).1 = m
  := by
  revert hfail
  unfold withRoot publish
  repeat' split
  all_goals first | exact fun _ => rfl | simp [hresp]

/-- A failed method on the tree of the census id other than `addClaim` leaves the manager. -/
theorem onTree_keepsOnError (op : Method) {m : Manager τ} (htr : m.trees r.censusID = some tr)
    (hop : op ≠ .addClaim) (hfail : (m.onTree env op r authorized tr resp).2.ok = false) :
  (m.onTree env op r authorized tr resp).1 = m
  := by
  cases op with
  | getRoot | checkProof => rfl
  | addClaimBulk =>
      exact setTree_of_keepsOnError htr (addClaimBulk_keepsOnError env r authorized tr hresp) hfail
  | addClaim => exact absurd rfl hop
  | importDump =>
      exact setTree_of_keepsOnError htr (importDump_keepsOnError env r authorized tr hresp) hfail
  | importRemote =>
      exact setTree_of_keepsOnError htr (importRemote_keepsOnError env r authorized tr hresp) hfail
  | _ => exact withRoot_keepsOnError env r authorized tr hresp m hfail

/-- A failed `addClaim` on the tree of the census id leaves the manager, unless the claim
failed to decode and the tree took what was decoded of it. -/
theorem onTree_addClaim_error {m : Manager τ} (htr : m.trees r.censusID = some tr)
    (hfail : (m.onTree env .addClaim r authorized tr resp).2.ok = false) :
  (m.onTree env .addClaim r authorized tr resp).1 = m ∨
    authorized = true ∧ ∃ data e tr', env.decodeBase64 r.claimData = (data, some e) ∧
      env.addClaim data tr = .ok tr' ∧
      (m.onTree env .addClaim r authorized tr resp).1 = m.setTree r.censusID tr'
  := by
  rcases addClaim_error env r authorized tr hresp hfail with h | ⟨hauth, data, e, tr', hd, hadd, h⟩
  · left
    show m.setTree r.censusID (addClaim env r authorized tr resp).1 = m
    rw [h, setTree_self htr]
  · exact .inr ⟨hauth, data, e, tr', hd, hadd, by show m.setTree _ _ = _; rw [h]⟩

end KeepsOnError

/-- A failed `addCensus` leaves the manager, unless `AddNamespace` added the namespace and only
its `save` failed. -/
theorem addCensus_error (r : MetaRequest) (isAuth : Bool) (censusPrefix : String)
    (m : Manager τ) {resp : MetaResponse} (hresp : resp.ok = true)
    (hfail : (m.addCensus env r isAuth censusPrefix resp).2.ok = false) :
  (m.addCensus env r isAuth censusPrefix resp).1 = m ∨
    ∃ tr, m.trees (censusPrefix ++ r.censusID) = none ∧
      env.init m.storageDir (censusPrefix ++ r.censusID) = .ok tr ∧
      (m.addCensus env r isAuth censusPrefix resp).1
        = m.insertNamespace (censusPrefix ++ r.censusID) r.pubKeys tr ∧
      ∃ e, (m.insertNamespace (censusPrefix ++ r.censusID) r.pubKeys tr).save env = .error e
  := by
  unfold addCensus at hfail ⊢
  cases isAuth with
  | false => exact .inl rfl
  | true =>
      rw [if_pos rfl] at hfail ⊢
      rcases addNamespace_cases env (censusPrefix ++ r.censusID) r.pubKeys m with
        ⟨e, he⟩ | ⟨tr, hnone, hinit, ⟨-, he⟩ | ⟨e, hsave, he⟩⟩
      · exact .inl (by rw [he])
      · rw [he] at hfail
        simp [hresp] at hfail
      · rw [he]
        exact .inr ⟨tr, hnone, hinit, rfl, e, hsave⟩

/-- The response every request starts from. -/
def initialResponse : MetaResponse := { ok := true, timestamp := toInt32 env.now }

theorem handler_of_addCensus {r : MetaRequest} (isAuth : Bool) (censusPrefix : String)
    (m : Manager τ) (hop : Method.ofString r.method = .addCensus) :
  m.handler env r isAuth censusPrefix = m.addCensus env r isAuth censusPrefix (initialResponse env)
  := if_pos hop

theorem handler_of_tree {r : MetaRequest} (isAuth : Bool) (censusPrefix : String)
    {m : Manager τ} {tr : τ} (hop : Method.ofString r.method ≠ .addCensus)
    (htr : m.trees r.censusID = some tr) :
  m.handler env r isAuth censusPrefix
    = m.onTree env (Method.ofString r.method) r (isAuth && validAuthPrefix censusPrefix r.censusID)
        tr (initialResponse env)
  := by
  simp only [handler, if_neg hop, htr]
  rfl

/-- A claim of a bulk addition fails on the tree `t`: it does not decode, or the tree refuses what
was decoded. -/
def ClaimFails (c : String) (t : τ) : Prop :=
  (env.decodeBase64 c).2.isSome ∨ ∃ e, env.addClaim (env.decodeBase64 c).1 t = .error e

/-- One iteration of the loop of `addClaimBulk`: a claim that does not fail is added, and the
index of one that fails is collected with the tree left as it was. -/
theorem addClaimsLoop_cons (tr : τ) (invalid : List Nat) (i : Nat) (c : String)
    (rest : List (Nat × String)) :
  (∃ tr', ¬ ClaimFails env c tr ∧ env.addClaim (env.decodeBase64 c).1 tr = .ok tr' ∧
      addClaimsLoop env tr invalid ((i, c) :: rest) = addClaimsLoop env tr' invalid rest) ∨
    ClaimFails env c tr ∧
      addClaimsLoop env tr invalid ((i, c) :: rest) = addClaimsLoop env tr (invalid ++ [i]) rest
  := by
  rcases hd : env.decodeBase64 c with ⟨data, _ | e⟩
  · cases hadd : env.addClaim data tr with
    | error e => exact .inr ⟨.inr ⟨e, by simp [hd, hadd]⟩, by simp [addClaimsLoop, hd, hadd]⟩
    | ok tr' =>
        exact .inl ⟨tr', by simp [ClaimFails, hd, hadd], by simp [hd, hadd],
          by simp [addClaimsLoop, hd, hadd]⟩
  · exact .inr ⟨.inl (by simp [hd]), by simp [addClaimsLoop, hd]⟩

/-- The claims of a list, from index `n` on, whose indexes are not among `reported`, added one by
one to a tree. -/
def addUnreported (reported : List Nat) (n : Nat) (cs : List String) (tr : τ) : Except String τ :=
  ((cs.enumFrom n).filter fun p => p.1 ∉ reported).foldlM
    (fun t p => env.addClaim (env.decodeBase64 p.2).1 t) tr

theorem addUnreported_cons_of_not_mem {reported : List Nat} {n : Nat} {c : String}
    (cs : List String) {tr tr' : τ} (hn : n ∉ reported)
    (hadd : env.addClaim (env.decodeBase64 c).1 tr = .ok tr') :
  addUnreported env reported n (c :: cs) tr = addUnreported env reported (n + 1) cs tr'
  := by
  rw [addUnreported, List.enumFrom_cons, List.filter_cons_of_pos (by simpa using hn),
    List.foldlM_cons, hadd]
  rfl

/-- Claims from index `n + 1` on do not see whether index `n` is reported. -/
theorem addUnreported_cons (n : Nat) (new : List Nat) (cs : List String) (tr : τ) :
  addUnreported env (n :: new) (n + 1) cs tr = addUnreported env new (n + 1) cs tr
  := by
  unfold addUnreported
  congr 1
  refine List.filter_congr fun p hp => ?_
  have := List.le_fst_of_mem_enumFrom hp
  simp only [List.mem_cons, not_or, decide_eq_decide]
  exact ⟨fun h => h.2, fun h => ⟨by omega, h⟩⟩

/-- A reported claim is skipped. -/
theorem addUnreported_cons_of_reported (n : Nat) (new : List Nat) (c : String) (cs : List String)
    (tr : τ) :
  addUnreported env (n :: new) n (c :: cs) tr = addUnreported env new (n + 1) cs tr
  := by
  rw [addUnreported, List.enumFrom_cons, List.filter_cons_of_neg (by simp), ← addUnreported,
    addUnreported_cons]

/-- What the loop of `addClaimBulk` reports and adds from index `n` on: the indexes it appends
are increasing and within the claims; the tree it ends with is the tree it started from with
the claims it does not report added in order; and it reports a claim exactly when the claim
fails on the tree the claims before it left. -/
theorem addClaimsLoop_spec (tr : τ) (invalid : List Nat) (n : Nat) (cs : List String) :
  ∃ new, (addClaimsLoop env tr invalid (cs.enumFrom n)).2 = invalid ++ new ∧
    new.Sorted (· < ·) ∧ (∀ i ∈ new, n ≤ i ∧ i < n + cs.length) ∧
    addUnreported env new n cs tr = .ok (addClaimsLoop env tr invalid (cs.enumFrom n)).1 ∧
    ∀ i (hi : i < cs.length), ∃ t, addUnreported env new n (cs.take i) tr = .ok t ∧
      (n + i ∈ new ↔ ClaimFails env cs[i] t)
  := by
  induction cs generalizing tr invalid n with
  | nil => exact ⟨[], by simp [addClaimsLoop], List.sorted_nil, by simp, rfl, nofun⟩
  | cons c cs ih =>
      rw [List.enumFrom_cons]
      rcases addClaimsLoop_cons env tr invalid n c (cs.enumFrom (n + 1)) with
        ⟨tr', hok, hadd, hloop⟩ | ⟨hfails, hloop⟩
      · -- the claim is added
        obtain ⟨new, hout, hsorted, hrange, hfold, hidx⟩ := ih tr' invalid (n + 1)
        have hn : n ∉ new := fun h => by have := hrange n h; omega
        refine ⟨new, by rw [hloop, hout], hsorted, fun i hi => ?_, ?_, fun i hi => ?_⟩
        · have := hrange i hi
          simp only [List.length_cons]
          omega
        · rw [addUnreported_cons_of_not_mem env cs hn hadd, hloop]
          exact hfold
        · cases i with
          | zero => exact ⟨tr, rfl, iff_of_false (by simpa using hn) (by simpa using hok)⟩
          | succ i =>
              obtain ⟨t, ht, hiff⟩ := hidx i (by simpa using hi)
              refine ⟨t, by rwa [List.take_succ_cons, addUnreported_cons_of_not_mem env _ hn hadd],
                ?_⟩
              rw [show n + (i + 1) = n + 1 + i by omega]
              exact hiff
      · -- the claim is reported, and the tree is left as it was
        obtain ⟨new, hout, hsorted, hrange, hfold, hidx⟩ := ih tr (invalid ++ [n]) (n + 1)
        refine ⟨n :: new, by simp [hloop, hout], ?_, ?_, ?_, fun i hi => ?_⟩
        · exact List.sorted_cons.mpr ⟨fun i hi => by have := hrange i hi; omega, hsorted⟩
        · intro i hi
          simp only [List.mem_cons, List.length_cons] at hi ⊢
          rcases hi with rfl | hi
          · omega
          · have := hrange i hi
            omega
        · rw [addUnreported_cons_of_reported, hloop]
          exact hfold
        · cases i with
          | zero => exact ⟨tr, rfl, iff_of_true (by simp) (by simpa using hfails)⟩
          | succ i =>
              obtain ⟨t, ht, hiff⟩ := hidx i (by simpa using hi)
              refine ⟨t, by rwa [List.take_succ_cons, addUnreported_cons_of_reported], ?_⟩
              rw [show n + (i + 1) = n + 1 + i by omega, List.mem_cons, or_iff_right (by omega)]
              exact hiff

/-- An authorised bulk addition answers the response it was given, with `InvalidClaims` set to
the indexes of the claims that failed when there are any: increasing, and indexes of the
request's claims. An index is reported exactly when its claim fails to decode, or fails to be
added to the tree the claims before it left, and the tree it leaves is the tree it started from
with only the other claims added, in order, so a claim that fails has no effect. -/
theorem addClaimBulk_reports_failed (r : MetaRequest) (tr : τ) (resp : MetaResponse) :
  ∃ invalid, invalid.Sorted (· < ·) ∧ (∀ i ∈ invalid, i < r.claimsData.length) ∧
    (addClaimBulk env r true tr resp).2
      = (if invalid = [] then resp else { resp with invalidClaims := invalid }) ∧
    addUnreported env invalid 0 r.claimsData tr = .ok (addClaimBulk env r true tr resp).1 ∧
    ∀ i (hi : i < r.claimsData.length), ∃ t,
      addUnreported env invalid 0 (r.claimsData.take i) tr = .ok t ∧
        (i ∈ invalid ↔ ClaimFails env r.claimsData[i] t)
  := by
  obtain ⟨invalid, hout, hsorted, hrange, hfold, hidx⟩ :=
    addClaimsLoop_spec env tr [] 0 r.claimsData
  refine ⟨invalid, hsorted, fun i hi => by simpa using (hrange i hi).2, ?_, ?_,
    fun i hi => by simpa using hidx i hi⟩
  · simp only [addClaimBulk, if_true, List.enum, hout, List.nil_append]
    cases invalid <;> simp
  · simpa [addClaimBulk, List.enum] using hfold

example :
    addClaimBulk (listEnv false) { claimsData := ["Yw==", "Y!==", "Yw"] } true [] {}
      = ([[99]], { invalidClaims := [1, 2] }) := by
  decide

end Manager

end Census
