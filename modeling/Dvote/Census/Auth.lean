import Dvote.Census.Handler

/-!
# Authentication of census requests

`Manager.CheckAuth(rm)`, and `HTTPhandler`, which hands its outcome to `Handler` as `isAuth`.

`CheckAuth` looks the census id up with `for _, n := range m.Census.Namespaces` and keeps
`ns = &n`. Under the Go 1.15 semantics the repository is built with, `n` is one variable that
each iteration overwrites, so once any namespace matches, `ns` points at that variable, which
after the loop holds the last namespace (`authNamespace_eq`). The keys checked are then the
last namespace's (`checkAuth_ok`): they are the requested namespace's own when it is the last
(`checkAuth_ok_of_last`), but a request for a namespace with keys is authorised by a later
namespace without any (`checkAuth_uses_last_namespace_keys`).
-/

namespace Census

/-- `types.RequestMessage`, as `CheckAuth` reads it: the request and its signature. -/
structure RequestMessage where
  request : MetaRequest
  signature : String
  deriving DecidableEq, Repr

/-- What `ns` points to in `CheckAuth`: the `new(Namespace)` it starts as, or the loop
variable `n`. -/
inductive NsPtr
  | fresh
  | loopVar
  deriving DecidableEq, Repr

namespace Manager

variable {τ : Type} (env : Env τ)

/-- The range loop of `CheckAuth`: `n` takes each namespace in turn, and a match points `ns`
at `n`. The state is where `ns` points and the value of `n`. -/
def findNamespace (censusID : String) : NsPtr × Namespace → List Namespace → NsPtr × Namespace
  | acc, [] => acc
  | (ptr, _), n :: rest =>
      findNamespace censusID (if n.name = censusID then .loopVar else ptr, n) rest

/-- The namespace `ns` points to after the loop of `CheckAuth`. -/
def authNamespace (censusID : String) (namespaces : List Namespace) : Namespace :=
  match findNamespace censusID (.fresh, ⟨"", []⟩) namespaces with
  | (.fresh, _) => ⟨"", []⟩
  | (.loopVar, n) => n

/-- The loop over the keys: the first key the signature verifies against authorises; a
verification error counts as a failed one. -/
def verifyLoop (msg signature : String) : List String → Bool
  | [] => false
  | k :: rest =>
      match env.verify msg signature k with
      | .ok true => true
      | _ => verifyLoop msg signature rest

/-- The signature check of `CheckAuth` with the keys `keys`: no key, or a single key too short
to be one, allows all. -/
def checkKeys (keys : List String) (rm : RequestMessage) : Except String Unit :=
  if keys.length > 0 then
    if keys.length = 1 ∧ (keys.headD "").utf8ByteSize < env.pubKeyLength then .ok ()
    else
      match env.marshalRequest rm.request with
      | .error _ => .error "cannot unmarshal"
      | .ok msg => if verifyLoop env msg rm.signature keys then .ok () else .error "unauthorized"
  else .ok ()

/-- Whether a timestamp lies in the authentication window, in Go's `int32` arithmetic. -/
def InWindow (currentTime authWindow timestamp : Int) : Prop :=
  ¬ (timestamp > toInt32 (currentTime + authWindow) ∨ timestamp < toInt32 (currentTime - authWindow))

instance (currentTime authWindow timestamp : Int) :
    Decidable (InWindow currentTime authWindow timestamp) :=
  inferInstanceAs (Decidable (¬ _))

/-- `CheckAuth(rm)`. For `addCensus` the keys are the root key, unless it is too short to be
one, which allows all. `ns` starts as `new(Namespace)`, so the source's `ns == nil` check never
fails and is left out. -/
def checkAuth (m : Manager τ) (rm : RequestMessage) : Except String Unit :=
  if rm.signature.utf8ByteSize < env.signatureLength ∨ rm.request.censusID.utf8ByteSize < 1 then
    .error "signature or censusId not provided or invalid"
  else
    let ns := authNamespace rm.request.censusID m.census.namespaces
    if rm.request.method = "addCensus" ∧ m.census.rootKey.utf8ByteSize < env.pubKeyLength then
      .ok ()
    else
      let keys := if rm.request.method = "addCensus" then [m.census.rootKey] else ns.keys
      if InWindow (toInt32 env.now) m.authWindow rm.request.timestamp then checkKeys env keys rm
      else .error "timestamp is not valid"

/-- `HTTPhandler` on a decoded request: a request without a method is refused; otherwise it is
handled with `isAuth` the outcome of `CheckAuth` and no census prefix. Signing the response is
left out. -/
def httpHandler (rm : RequestMessage) (m : Manager τ) : Manager τ × Except String MetaResponse :=
  if rm.request.method.utf8ByteSize < 1 then (m, .error "method must be specified")
  else
    let auth := match m.checkAuth env rm with
      | .ok () => true
      | .error _ => false
    let (m, resp) := m.handler env rm.request auth ""
    (m, .ok resp)

/-! ### What `CheckAuth` checks -/

/-- After the loop, `ns` points at the loop variable exactly when a namespace matched, and the
loop variable holds the last namespace. -/
theorem findNamespace_eq (censusID : String) (namespaces : List Namespace) (ptr : NsPtr)
    (n : Namespace) :
  findNamespace censusID (ptr, n) namespaces
    = (if namespaces.any (·.name = censusID) then .loopVar else ptr, namespaces.getLast?.getD n)
  := by
  induction namespaces generalizing ptr n with
  | nil => simp [findNamespace]
  | cons x rest ih =>
      rw [findNamespace, ih, List.getLast?_cons, Option.getD_some, List.any_cons]
      by_cases hx : x.name = censusID <;> simp [hx]

/-- The namespace `CheckAuth` checks the keys of: the last one once any namespace has the
census id, and else one without keys. -/
theorem authNamespace_eq (censusID : String) (namespaces : List Namespace) :
  authNamespace censusID namespaces
    = if namespaces.any (·.name = censusID) then namespaces.getLast?.getD ⟨"", []⟩
      else ⟨"", []⟩
  := by
  unfold authNamespace
  rw [findNamespace_eq]
  by_cases h : namespaces.any (·.name = censusID) = true
  · simp only [if_pos h]
  · simp only [if_neg h]

/-- The keys admit a request: there are none, or a single one too short to be a key, or the
signature verifies over the request against one of them. -/
def KeysAdmit (keys : List String) (rm : RequestMessage) : Prop :=
  keys = [] ∨ (∃ k, keys = [k] ∧ k.utf8ByteSize < env.pubKeyLength) ∨
    ∃ msg, env.marshalRequest rm.request = .ok msg ∧
      ∃ k ∈ keys, env.verify msg rm.signature k = .ok true

theorem verifyLoop_eq_true (msg signature : String) (keys : List String) :
  verifyLoop env msg signature keys = true ↔ ∃ k ∈ keys, env.verify msg signature k = .ok true
  := by
  induction keys with
  | nil => simp [verifyLoop]
  | cons k rest ih =>
      rw [verifyLoop]
      split <;> simp_all

theorem checkKeys_eq_ok (keys : List String) (rm : RequestMessage) :
  checkKeys env keys rm = .ok () → KeysAdmit env keys rm
  := by
  unfold checkKeys KeysAdmit
  split
  · split
    · next h =>
        obtain ⟨hlen, hshort⟩ := h
        obtain ⟨k, rfl⟩ := List.length_eq_one.mp hlen
        exact fun _ => .inr (.inl ⟨k, rfl, hshort⟩)
    · split
      · nofun
      · next msg hmsg =>
          split
          · next hv => exact fun _ => .inr (.inr ⟨msg, hmsg, (verifyLoop_eq_true env _ _ _).mp hv⟩)
          · nofun
  · next h => exact fun _ => .inl (List.eq_nil_of_length_eq_zero (by omega))

/-- Everything `CheckAuth` checks before it authorises a request: the signature and census id
are present, and, unless an `addCensus` finds no usable root key, the timestamp lies in the
window and the keys admit the request. These keys are the root key for `addCensus`, and
otherwise those of `authNamespace`, the last namespace once any has the census id. -/
theorem checkAuth_ok (m : Manager τ) (rm : RequestMessage) (h : m.checkAuth env rm = .ok ()) :
  env.signatureLength ≤ rm.signature.utf8ByteSize ∧ 1 ≤ rm.request.censusID.utf8ByteSize ∧
    (rm.request.method = "addCensus" ∧ m.census.rootKey.utf8ByteSize < env.pubKeyLength ∨
      InWindow (toInt32 env.now) m.authWindow rm.request.timestamp ∧
        KeysAdmit env (if rm.request.method = "addCensus" then [m.census.rootKey]
          else (authNamespace rm.request.censusID m.census.namespaces).keys) rm)
  := by
  unfold checkAuth at h
  split at h
  · cases h
  · next hpresent =>
      refine ⟨by omega, by omega, ?_⟩
      split at h
      · next hroot => exact .inl hroot
      · by_cases hwin : InWindow (toInt32 env.now) m.authWindow rm.request.timestamp
        · simp only [hwin, ↓reduceIte] at h
          exact .inr ⟨hwin, checkKeys_eq_ok env _ rm h⟩
        · simp [hwin] at h

/-- When the namespace with the census id is the last one, `CheckAuth` checks its own keys:
any other request it authorises has its timestamp in the window, and those keys admit it. -/
theorem checkAuth_ok_of_last (m : Manager τ) (rm : RequestMessage) (ns : Namespace)
    (hlast : m.census.namespaces.getLast? = some ns) (hname : ns.name = rm.request.censusID)
    (hmethod : rm.request.method ≠ "addCensus") (h : m.checkAuth env rm = .ok ()) :
  InWindow (toInt32 env.now) m.authWindow rm.request.timestamp ∧ KeysAdmit env ns.keys rm
  := by
  obtain ⟨-, -, hroot | ⟨hwin, hkeys⟩⟩ := checkAuth_ok env m rm h
  · exact absurd hroot.1 hmethod
  · have hany : m.census.namespaces.any (·.name = rm.request.censusID) = true :=
      List.any_eq_true.mpr ⟨ns, List.mem_of_getLast?_eq_some hlast, by simp [hname]⟩
    rw [if_neg hmethod, authNamespace_eq, if_pos hany, hlast, Option.getD_some] at hkeys
    exact ⟨hwin, hkeys⟩

/-! ### Keys and signatures for examples -/

/-- A compressed public key in hex, `signature.PubKeyLength` characters long. -/
def aKey : String := "02ca978112ca1bbdcafac231b39a23dc4da786eff8147c4e72b9807785afee48bb"

/-- Another compressed public key in hex. -/
def bKey : String := "033e23e8160039594a33894f6564e1b1348bbd7a0088d42c4acb73eeaed59c009d"

/-- A signature in hex, `signature.SignatureLength` characters long, that verifies against no
key. -/
def forgedSignature : String :=
  "b72ca73db2711388ad168a78b8ab345bd4cbd4245fc07359dc71c11459276e28" ++
    "60e08e34de199a10bf4c0dc6e8b9cae595499e2af2507ebef47872813cb25f021c"

/-- A signature in hex that `signedEnv` verifies against `bKey`. -/
def bSignature : String :=
  "d6e5dad3f22ecaa3fa3f2654e72841d91b86f7d164630c3dea5d5ae1afafc581" ++
    "dc48a1abdb33ae98db05f88087e6d3687d99e9f2e22a28188c6b0ce92345ec0a1b"

/-- The example census world in which `bSignature` verifies against `bKey`, and no other
signature against any key. -/
def signedEnv : Env (List Bytes) :=
  { listEnv false with verify := fun _ sig k => .ok (sig == bSignature && k == bKey) }

set_option maxRecDepth 2000 in
/-- Two namespaces, each managed by its own key, `b` last: a claim for `b` signed for `bKey` is
authorised, through that key, and the same claim with a forged signature is not. -/
theorem checkAuth_ok_of_last_sample :
  let m := ((empty.addNamespace signedEnv "a" [aKey]).1.addNamespace signedEnv "b" [bKey]).1
  let rm : RequestMessage := ⟨{ method := "addClaim", censusID := "b", claimData := "Yw==" },
    bSignature⟩
  m.census.namespaces = [⟨"a", [aKey]⟩, ⟨"b", [bKey]⟩] ∧
    m.census.namespaces.getLast? = some ⟨"b", [bKey]⟩ ∧ "b" = rm.request.censusID ∧
    rm.request.method ≠ "addCensus" ∧ m.checkAuth signedEnv rm = .ok () ∧
    m.checkAuth signedEnv { rm with signature := forgedSignature } = .error "unauthorized" ∧
    InWindow (toInt32 signedEnv.now) m.authWindow rm.request.timestamp ∧
      KeysAdmit signedEnv [bKey] rm
  := ⟨rfl, rfl, rfl, by decide, rfl, rfl,
    checkAuth_ok_of_last _ _ _ ⟨"b", [bKey]⟩ rfl rfl (by decide) rfl⟩

/-- Two namespaces, `a` managed by `aKey` and `b` by no key, as `AddNamespace` builds them. -/
def twoNamespaces : Manager (List Bytes) :=
  ((empty.addNamespace (listEnv false) "a" [aKey]).1.addNamespace (listEnv false) "b" []).1

/-- An `addClaim` for `a` of the claim `c`, base64-encoded, with a signature that verifies
against no key. -/
def forgedClaim : RequestMessage :=
  ⟨{ method := "addClaim", censusID := "a", claimData := "Yw==" }, forgedSignature⟩

set_option maxRecDepth 2000 in
/-- `CheckAuth` authorises the forged claim for `a` by `b`'s empty key list, though `a`'s only
key is a full-length one the signature does not verify against; through `HTTPhandler` the
request adds its claim to `a`'s tree. With the namespaces in the other order, `CheckAuth`
checks `a`'s key and refuses the same request. -/
theorem checkAuth_uses_last_namespace_keys :
  twoNamespaces.census.namespaces = [⟨"a", [aKey]⟩, ⟨"b", []⟩] ∧
    (listEnv false).pubKeyLength ≤ aKey.utf8ByteSize ∧
    (listEnv false).signatureLength ≤ forgedClaim.signature.utf8ByteSize ∧
    (∀ msg, (listEnv false).verify msg forgedClaim.signature aKey = .ok false) ∧
    (listEnv false).decodeBase64 forgedClaim.request.claimData = ([99], none) ∧
    twoNamespaces.checkAuth (listEnv false) forgedClaim = .ok () ∧
    (twoNamespaces.httpHandler (listEnv false) forgedClaim).1.trees "a" = some [[99]] ∧
    ((empty.addNamespace (listEnv false) "b" []).1.addNamespace (listEnv false) "a" [aKey]).1.checkAuth
      (listEnv false) forgedClaim = .error "unauthorized"
  := ⟨rfl, by decide, by decide, fun _ => rfl, rfl, rfl, rfl, rfl⟩

end Manager

end Census
