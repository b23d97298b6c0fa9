import Dvote.Bytes

/-!
# The keys batch file

`SaveKeysBatch` of `client/util.go` writes the signing keys of a census, each with its proof,
and the census id and URI to a JSON file; `LoadKeysBatch` reads such a file back and rebuilds
the keys from their private halves. The keys, their hex codec and the JSON codec are not under
src, so they are a `KeysEnv`, and the file is what the JSON codec writes.

A file saved from a list of keys loads back to the same keys, the same proofs (empty proofs
when they were saved as nil) and the same census id and URI, provided each key is rebuilt from
its private half and the JSON codec reads back what it wrote; a file saved with no keys, or
with an empty census id or URI, is refused (`loadKeysBatch_saveKeysBatch`).
-/

namespace Client

/-- `signKey`: a key of the batch file. -/
structure SignKey where
  privKey : String
  pubKey : String
  proof : String
  deriving DecidableEq, Repr

/-- `keysBatch`: the contents of a batch file. -/
structure KeysBatch where
  keys : List SignKey
  censusID : String
  censusURI : String
  deriving DecidableEq, Repr

/-- What the batch functions call: `κ` is `ethereum.SignKeys`, `φ` what `json.Marshal` writes. -/
structure KeysEnv (κ φ : Type) where
  /-- `HexString()`: the public and the private half. -/
  hexString : κ → String × String
  /-- `NewSignKeys()` followed by `AddHexKey(privKey)`: the keys it then holds. -/
  addHexKey : String → Except String κ
  /-- `json.Marshal` of a `keysBatch`. -/
  marshal : KeysBatch → Except String φ
  /-- `json.Unmarshal` into a `keysBatch`. -/
  unmarshal : φ → Except String KeysBatch

variable {κ φ : Type} (env : KeysEnv κ φ)

/-- The loop of `SaveKeysBatch` from index `i`: each key with its proof `proofs[i]`, or without
one when `proofs` is nil. -/
def batchKeys (proofs : Option (List String)) : Nat → List κ → List SignKey
  | _, [] => []
  | i, k :: rest =>
      (match proofs with
        | some ps => ⟨(env.hexString k).2, (env.hexString k).1, ps.getD i ""⟩
        | none => ⟨(env.hexString k).2, (env.hexString k).1, ""⟩) ::
        batchKeys proofs (i + 1) rest

/-- `SaveKeysBatch`: what it writes to the file. A non-nil `proofs` must have a proof per key. -/
def saveKeysBatch (censusID censusURI : String) (keys : List κ) (proofs : Option (List String)) :
    Except String φ :=
  if proofs.any (·.length != keys.length) then
    .error "lenght of Proof is different from lenght of Signers"
  else env.marshal ⟨batchKeys env proofs 0 keys, censusID, censusURI⟩

/-- The loop of `LoadKeysBatch`: rebuild each key from its private half and collect its proof;
the first key that does not rebuild fails the load. -/
def loadKeys : List SignKey → Except String (List κ × List String)
  | [] => .ok ([], [])
  | k :: rest =>
      match env.addHexKey k.privKey with
      | .error e => .error e
      | .ok s => (loadKeys rest).map fun (keys, proofs) => (s :: keys, k.proof :: proofs)

/-- `LoadKeysBatch`, on what it reads from the file: the keys, the proofs, the census id and
the census URI. -/
def loadKeysBatch (file : φ) : Except String (List κ × List String × String × String) :=
  match env.unmarshal file with
  | .error e => .error e
  | .ok kb =>
      if kb.keys.length = 0 ∨ kb.censusID = "" ∨ kb.censusURI = "" then
        .error "keybatch file is empty or missing data"
      else (loadKeys env kb.keys).map fun (keys, proofs) =>
        (keys, proofs, kb.censusID, kb.censusURI)

/-! ### The round trip -/

/-- The loop of `SaveKeysBatch` writes one entry per key. -/
theorem batchKeys_length (proofs : Option (List String)) (i : Nat) (keys : List κ) :
  (batchKeys env proofs i keys).length = keys.length
  := by
  induction keys generalizing i with
  | nil => rfl
  | cons k rest ih => simp [batchKeys, ih]

/-- Rebuilding the keys of the batch from index `i` gives the keys back, with the proofs from
`proofs[i]` on, or empty ones when `proofs` is nil. -/
theorem loadKeys_batchKeys (hkeys : ∀ k, env.addHexKey (env.hexString k).2 = .ok k)
    (proofs : Option (List String)) (i : Nat) (keys : List κ)
    (hlen : ∀ ps, proofs = some ps → i + keys.length ≤ ps.length) :
  loadKeys env (batchKeys env proofs i keys)
    = .ok (keys, (proofs.map fun ps => (ps.drop i).take keys.length).getD (keys.map fun _ => ""))
  := by
  induction keys generalizing i with
  | nil => cases proofs <;> rfl
  | cons k rest ih =>
      have hrest := ih (i + 1) fun ps hps => by have := hlen ps hps; simp at this; omega
      cases proofs with
      | none => simp_all [batchKeys, loadKeys, Except.map]
      | some ps =>
          have hi : i < ps.length := by have := hlen ps rfl; simp at this; omega
          simp only [batchKeys, loadKeys, hkeys, hrest, Option.map_some', Option.getD_some,
            Except.map, List.length_cons]
          rw [List.drop_eq_getElem_cons hi, List.take_succ_cons, List.getD_eq_getElem?_getD,
            List.getElem?_eq_getElem hi, Option.getD_some]

/-- A file saved from a list of keys loads back to the same keys, the same proofs (empty ones
when they were saved as nil), and the same census id and URI, when each key rebuilds from its
private half and the JSON codec reads back what it wrote. A file saved with no keys, or with an
empty census id or URI, is refused. -/
theorem loadKeysBatch_saveKeysBatch (censusID censusURI : String) (keys : List κ)
    (proofs : Option (List String)) {file : φ}
    (hsave : saveKeysBatch env censusID censusURI keys proofs = .ok file)
    (hjson : ∀ kb, env.marshal kb = .ok file → env.unmarshal file = .ok kb)
    (hkeys : ∀ k, env.addHexKey (env.hexString k).2 = .ok k) :
  loadKeysBatch env file
    = if keys.length = 0 ∨ censusID = "" ∨ censusURI = "" then
        .error "keybatch file is empty or missing data"
      else .ok (keys, proofs.getD (keys.map fun _ => ""), censusID, censusURI)
  := by
  unfold saveKeysBatch at hsave
  split at hsave
  · cases hsave
  · next hproofs =>
      -- a non-nil `proofs` has one proof per key
      have hlen : ∀ ps, proofs = some ps → ps.length = keys.length := by
        rintro ps rfl
        simpa using hproofs
      have hps : (proofs.map fun ps => (ps.drop 0).take keys.length) = proofs := by
        cases proofs with
        | none => rfl
        | some ps => simp [List.take_of_length_le (hlen ps rfl).le]
      unfold loadKeysBatch
      rw [hjson _ hsave]
      dsimp only
      rw [batchKeys_length, loadKeys_batchKeys env hkeys proofs 0 keys
        fun ps hps => by rw [hlen ps hps, Nat.zero_add], hps]
      rfl

/-- Keys that are their own hex halves, and a JSON codec that writes the batch itself. -/
def plainKeysEnv : KeysEnv String KeysBatch where
  hexString k := (k, k)
  addHexKey k := .ok k
  marshal kb := .ok kb
  unmarshal kb := .ok kb

/-- Two keys saved without proofs load back with empty proofs. -/
theorem loadKeysBatch_saveKeysBatch_sample :
  let file : KeysBatch := ⟨[⟨"a", "a", ""⟩, ⟨"b", "b", ""⟩], "c", "ipfs://c"⟩
  saveKeysBatch plainKeysEnv "c" "ipfs://c" ["a", "b"] none = .ok file ∧
    (∀ kb, plainKeysEnv.marshal kb = .ok file → plainKeysEnv.unmarshal file = .ok kb) ∧
    (∀ k, plainKeysEnv.addHexKey (plainKeysEnv.hexString k).2 = .ok k) ∧
    loadKeysBatch plainKeysEnv file
      = if ["a", "b"].length = 0 ∨ "c" = "" ∨ "ipfs://c" = "" then
          .error "keybatch file is empty or missing data"
        else .ok (["a", "b"], (none : Option (List String)).getD (["a", "b"].map fun _ => ""),
          "c", "ipfs://c")
  := by
  intro file
  have hjson : ∀ kb, plainKeysEnv.marshal kb = .ok file →
      plainKeysEnv.unmarshal file = .ok kb := by
    intro kb h
    cases h
    rfl
  exact ⟨rfl, hjson, fun _ => rfl,
    loadKeysBatch_saveKeysBatch plainKeysEnv "c" "ipfs://c" ["a", "b"] none rfl hjson
      fun _ => rfl⟩

end Client
