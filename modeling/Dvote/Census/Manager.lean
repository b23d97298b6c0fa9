import Dvote.Bytes

/-!
# The census manager

`Manager` of `census/census.go`: the namespaces saved in `namespaces.json`, and a merkle
tree per census id. Everything the manager calls outside itself is an `Env`: the merkle
trees of the `tree` package, the remote `data.Storage`, the JSON and base64 codecs, the
signature checks, the write of `namespaces.json` and the clock. None of these is under src,
so their outcomes are parameters, and a tree operation that reports an error is taken to
leave its tree as it was.

* `init` is `Manager.Init` on a fresh manager, from what it finds at `namespaces.json`;
* `addNamespace` and `delNamespace` are `AddNamespace` and `DelNamespace`, and `save` is
  `save`. Go's `map[string]*tree.Tree` is a function to `Option τ`, and a tree operation on
  the tree of a census id replaces the tree stored under that id (`setTree`).
-/

namespace Census

/-- `Namespace`: a census id and the public keys allowed to manage it. -/
structure Namespace where
  name : String
  keys : List String
  deriving DecidableEq, Repr

/-- `Namespaces`: the root key and the namespaces, the contents of `namespaces.json`. -/
structure Namespaces where
  rootKey : String
  namespaces : List Namespace
  deriving DecidableEq, Repr

/-- The census ids of the namespaces, in order. -/
def Namespaces.names (ns : Namespaces) : List String := ns.namespaces.map (·.name)

/-- `types.CensusDump`. -/
structure CensusDump where
  rootHash : String
  claimsData : List String
  deriving DecidableEq, Repr

/-- The fields of `types.MetaRequest` the census methods read; a field the request leaves out
is Go's zero value. -/
structure MetaRequest where
  method : String := ""
  censusID : String := ""
  pubKeys : List String := []
  claimData : String := ""
  claimsData : List String := []
  rootHash : String := ""
  proofData : String := ""
  uri : String := ""
  timestamp : Int := 0
  deriving DecidableEq, Repr

/-- The fields of `types.MetaResponse` the census methods set. -/
structure MetaResponse where
  ok : Bool := false
  message : String := ""
  timestamp : Int := 0
  censusID : String := ""
  root : String := ""
  invalidClaims : List Nat := []
  siblings : String := ""
  size : Int := 0
  claimsData : List String := []
  uri : String := ""
  validProof : Bool := false
  deriving DecidableEq, Repr

/-- `SetError`: the response fails with the error's text. -/
def MetaResponse.setError (msg : String) (resp : MetaResponse) : MetaResponse :=
  { resp with ok := false, message := msg }

@[simp] theorem MetaResponse.setError_ok (msg : String) (resp : MetaResponse) :
  (resp.setError msg).ok = false
  := rfl

/-- `data.Storage`, as the manager uses it. -/
structure Storage where
  /-- `URIprefix()`. -/
  uriPrefix : String
  /-- `Retrieve(ctx, path)`. The path is a byte string: slicing a Go string may cut a
  character. -/
  retrieve : Bytes → Except String Bytes
  /-- `Publish(ctx, msg)`: the content id. -/
  publish : Bytes → Except String String

/-- What the manager calls outside itself. `τ` is a merkle tree of the `tree` package. -/
structure Env (τ : Type) where
  /-- `tree.Tree{StorageDir: dir}.Init(name)`. -/
  init : String → String → Except String τ
  /-- `Root()`. -/
  root : τ → String
  /-- `AddClaim(data)`. -/
  addClaim : Bytes → τ → Except String τ
  /-- `ImportDump(claims)`. -/
  importDump : List String → τ → Except String τ
  /-- `Snapshot(root)`: a tree of its own; the tree it is taken of is left as it is. -/
  snapshot : String → τ → Except String τ
  /-- `GenProof(data)`: the siblings. -/
  genProof : Bytes → τ → Except String String
  /-- `Size(root)`. -/
  size : String → τ → Except String Int
  /-- `Dump(root)`. -/
  dump : String → τ → Except String (List String)
  /-- `DumpPlain(root, true)`. -/
  dumpPlain : String → τ → Except String (List String)
  /-- `tree.CheckProof(root, proof, data)`. -/
  checkProof : String → String → Bytes → Except String Bool
  /-- `base64.StdEncoding.DecodeString`: the bytes decoded, which after an error are those
  before it, and the error. -/
  decodeBase64 : String → Bytes × Option String
  /-- `json.Unmarshal` into a `types.CensusDump`. -/
  decodeDump : Bytes → Except String CensusDump
  /-- `json.Marshal` of a `types.CensusDump`. -/
  marshalDump : CensusDump → Except String Bytes
  /-- `json.Marshal` of a request: the message its signature is over. -/
  marshalRequest : MetaRequest → Except String String
  /-- `signature.Verify(msg, signature, pubKey)`. -/
  verify : String → String → String → Except String Bool
  /-- `signature.SignatureLength`. -/
  signatureLength : Nat
  /-- `signature.PubKeyLength`. -/
  pubKeyLength : Nat
  /-- `ioutil.WriteFile` of `namespaces.json` with the marshalled namespaces. -/
  writeConfig : Namespaces → Except String Unit
  /-- `Storage`, unless it is nil. -/
  storage : Option Storage
  /-- `time.Now().Unix()`. -/
  now : Int

/-- A Go conversion to `int32`: the value modulo `2 ^ 32`, in `[-2 ^ 31, 2 ^ 31)`. -/
def toInt32 (x : Int) : Int := x.bmod 4294967296

/-- The bytes of a Go string from byte `i` on. -/
def bytesFrom (s : String) (i : Nat) : Bytes := s.toUTF8.data.toList.drop i

/-- The Go slice `s[i:]`: `none`, a panic, when `i` is past the end of `s`. -/
def sliceFrom (s : String) (i : Nat) : Option Bytes :=
  if i ≤ s.utf8ByteSize then some (bytesFrom s i) else none

/-- `Manager`: its storage directory, the authentication window, the namespaces, and a tree
per census id. -/
structure Manager (τ : Type) where
  storageDir : String
  authWindow : Int
  census : Namespaces
  trees : String → Option τ

/-- What `Init` finds at `namespaces.json`. -/
inductive ConfigFile
  | missing
  | unreadable (err : String)
  /-- `json.Unmarshal` failed; it leaves set what it decoded before the error. -/
  | undecodable (decoded : Namespaces) (err : String)
  | decoded (ns : Namespaces)

namespace Manager

variable {τ : Type} (env : Env τ)

/-- `m.Trees[name] = tr`. -/
def setTree (name : String) (tr : τ) (m : Manager τ) : Manager τ :=
  { m with trees := fun x => if x = name then some tr else m.trees x }

/-- `delete(m.Trees, name)`. -/
def deleteTree (name : String) (m : Manager τ) : Manager τ :=
  { m with trees := fun x => if x = name then none else m.trees x }

@[simp] theorem setTree_trees (name : String) (tr : τ) (m : Manager τ) (x : String) :
  (m.setTree name tr).trees x = if x = name then some tr else m.trees x
  := rfl

@[simp] theorem setTree_census (name : String) (tr : τ) (m : Manager τ) :
  (m.setTree name tr).census = m.census
  := rfl

@[simp] theorem setTree_storageDir (name : String) (tr : τ) (m : Manager τ) :
  (m.setTree name tr).storageDir = m.storageDir
  := rfl

@[simp] theorem deleteTree_trees (name : String) (m : Manager τ) (x : String) :
  (m.deleteTree name).trees x = if x = name then none else m.trees x
  := rfl

@[simp] theorem deleteTree_census (name : String) (m : Manager τ) :
  (m.deleteTree name).census = m.census
  := rfl

/-- Storing back the tree a census id already has changes nothing. -/
theorem setTree_self {name : String} {tr : τ} {m : Manager τ} (h : m.trees name = some tr) :
  m.setTree name tr = m
  := by
  cases m
  simp only [setTree, mk.injEq, true_and]
  funext x
  split <;> simp_all

/-- `save`: write the namespaces to `namespaces.json`. -/
def save (m : Manager τ) : Except String Unit := env.writeConfig m.census

/-- The loop of `Init` over the namespaces: a tree for each one whose tree initialises;
one whose tree fails is only logged. -/
def initTrees : List Namespace → Manager τ → Manager τ
  | [], m => m
  | ns :: rest, m => initTrees rest
      (match env.init m.storageDir ns.name with
       | .ok tr => m.setTree ns.name tr
       | .error _ => m)

/-- The namespace and the tree `AddNamespace` adds. -/
def insertNamespace (name : String) (pubKeys : List String) (tr : τ) (m : Manager τ) :
    Manager τ :=
  { m.setTree name tr with
    census := { m.census with namespaces := m.census.namespaces ++ [⟨name, pubKeys⟩] } }

/-- `AddNamespace(name, pubKeys)`: a fresh tree for a census id that has none. The manager
is changed before `save`, whose error is returned with the tree left in place. -/
def addNamespace (name : String) (pubKeys : List String) (m : Manager τ) :
    Manager τ × Except String τ :=
  if (m.trees name).isSome then (m, .error "namespace already exist")
  else
    match env.init m.storageDir name with
    | .error e => (m, .error e)
    | .ok tr =>
        let m := m.insertNamespace name pubKeys tr
        (m, match m.save env with
          | .ok () => .ok tr
          | .error e => .error e)

/-- Everything `AddNamespace` can do: fail and leave the manager, or add the namespace with a
fresh tree, and then answer that tree unless `save` fails. -/
theorem addNamespace_cases (name : String) (pubKeys : List String) (m : Manager τ) :
  (∃ e, m.addNamespace env name pubKeys = (m, .error e)) ∨
    ∃ tr, m.trees name = none ∧ env.init m.storageDir name = .ok tr ∧
      ((m.insertNamespace name pubKeys tr).save env = .ok () ∧
          m.addNamespace env name pubKeys = (m.insertNamespace name pubKeys tr, .ok tr) ∨
        ∃ e, (m.insertNamespace name pubKeys tr).save env = .error e ∧
          m.addNamespace env name pubKeys = (m.insertNamespace name pubKeys tr, .error e))
  := by
  unfold addNamespace
  split
  · exact .inl ⟨_, rfl⟩
  · next hnone =>
      cases hinit : env.init m.storageDir name with
      | error e => exact .inl ⟨e, rfl⟩
      | ok tr =>
          refine .inr ⟨tr, Option.not_isSome_iff_eq_none.mp hnone, rfl, ?_⟩
          cases hsave : (m.insertNamespace name pubKeys tr).save env with
          | error e => exact .inr ⟨e, rfl, by simp [hsave]⟩
          | ok u => exact .inl ⟨rfl, by simp [hsave]⟩

/-- `DelNamespace(name)`: drop the tree of `name`, and the first namespace named `name`, then
save. The removal of the tree's directory is left out. -/
def delNamespace (name : String) (m : Manager τ) : Manager τ × Except String Unit :=
  let m := if (m.trees name).isSome then m.deleteTree name else m
  let m := { m with census := { m.census with
    namespaces := m.census.namespaces.eraseP fun ns => ns.name == name } }
  (m, m.save env)

/-- `Init(storage, rootKey)` on a fresh manager. A missing file is created with no
namespaces; a file that does not decode leaves the manager with what was decoded, and no
trees; otherwise the root key is replaced by `rootKey` when that is long enough, and every
namespace's tree is initialised. Starting the import daemon is left out. -/
def init (cfg : ConfigFile) (storage rootKey : String) : Manager τ × Except String Unit :=
  let m : Manager τ := ⟨storage, 10, ⟨"", []⟩, fun _ => none⟩
  match cfg with
  | .missing =>
      let m := { m with census :=
        ⟨if rootKey.utf8ByteSize < env.pubKeyLength then "" else rootKey, []⟩ }
      (m, m.save env)
  | .unreadable e => (m, .error e)
  | .undecodable decoded _ => ({ m with census := decoded }, .ok ())
  | .decoded ns =>
      let census := if env.pubKeyLength ≤ rootKey.utf8ByteSize then { ns with rootKey } else ns
      (initTrees env census.namespaces { m with census }, .ok ())

/-! ### Changes of the trees and the namespaces -/

@[simp] theorem insertNamespace_trees (name : String) (pubKeys : List String) (tr : τ)
    (m : Manager τ) (x : String) :
  (m.insertNamespace name pubKeys tr).trees x = if x = name then some tr else m.trees x
  := rfl

@[simp] theorem insertNamespace_names (name : String) (pubKeys : List String) (tr : τ)
    (m : Manager τ) :
  (m.insertNamespace name pubKeys tr).census.names = m.census.names ++ [name]
  := by simp [insertNamespace, Namespaces.names]

/-- Removing the first namespace with a census id removes that id from the census ids. -/
theorem names_eraseP (l : List Namespace) (name : String) :
  (l.eraseP fun ns => ns.name == name).map (·.name) = (l.map (·.name)).erase name
  := by
  induction l with
  | nil => rfl
  | cons n l ih => by_cases h : n.name = name <;> simp [List.eraseP_cons, List.erase_cons, h, ih]

/-- Removing the first namespace with a census id leaves the namespaces of every other id. -/
theorem filter_eraseP_of_ne {name x : String} (h : name ≠ x) (l : List Namespace) :
  (l.eraseP fun ns => ns.name == name).filter (·.name = x) = l.filter (·.name = x)
  := by
  induction l with
  | nil => rfl
  | cons n l ih => by_cases hn : n.name = name <;> simp [List.eraseP_cons, List.filter_cons, hn, ih, h]

@[simp] theorem delNamespace_trees (name : String) (m : Manager τ) (x : String) :
  (m.delNamespace env name).1.trees x = if x = name then none else m.trees x
  := by
  unfold delNamespace
  split
  · rfl
  · next h => by_cases hx : x = name <;> simp_all

@[simp] theorem delNamespace_names (name : String) (m : Manager τ) :
  (m.delNamespace env name).1.census.names = m.census.names.erase name
  := by
  unfold delNamespace Namespaces.names
  split <;> exact names_eraseP _ _

@[simp] theorem insertNamespace_namespaces (name : String) (pubKeys : List String) (tr : τ)
    (m : Manager τ) :
  (m.insertNamespace name pubKeys tr).census.namespaces = m.census.namespaces ++ [⟨name, pubKeys⟩]
  := rfl

@[simp] theorem insertNamespace_storageDir (name : String) (pubKeys : List String) (tr : τ)
    (m : Manager τ) :
  (m.insertNamespace name pubKeys tr).storageDir = m.storageDir
  := rfl

@[simp] theorem delNamespace_namespaces (name : String) (m : Manager τ) :
  (m.delNamespace env name).1.census.namespaces
    = m.census.namespaces.eraseP fun ns => ns.name == name
  := by
  unfold delNamespace
  split <;> rfl

@[simp] theorem delNamespace_storageDir (name : String) (m : Manager τ) :
  (m.delNamespace env name).1.storageDir = m.storageDir
  := by
  unfold delNamespace
  split <;> rfl

end Manager

/-! ### A census world for examples -/

/-- The value of a character of the standard base64 alphabet (RFC 4648 §4). -/
def base64Value (c : Char) : Option Nat :=
  if 'A' ≤ c ∧ c ≤ 'Z' then some (c.toNat - 65)
  else if 'a' ≤ c ∧ c ≤ 'z' then some (c.toNat - 97 + 26)
  else if '0' ≤ c ∧ c ≤ '9' then some (c.toNat - 48 + 52)
  else if c = '+' then some 62
  else if c = '/' then some 63
  else none

/-- The three bytes four sextets stand for, the first one first. -/
def quantumBytes (a b c d : Nat) : Bytes :=
  let v := ((a * 64 + b) * 64 + c) * 64 + d
  [UInt8.ofNat (v / 65536), UInt8.ofNat (v / 256), UInt8.ofNat v]

/-- The text of `base64.CorruptInputError`. -/
def illegalBase64 (offset : Nat) : String :=
  "illegal base64 data at input byte " ++ toString offset

/-- Decoding with `base64.StdEncoding` from input byte `i` on: each quantum of four
characters of the alphabet gives three bytes, and a last quantum `xx==` or `xxx=` one or two.
A quantum cut short, or with a character outside the alphabet or padding before the end, stops
decoding with the bytes of the quanta before it and the error at that character (at the start
of a quantum cut short). -/
def decodeQuanta (i : Nat) : List Char → Bytes × Option String
  | [] => ([], none)
  | [a, b, '=', '='] =>
      match base64Value a, base64Value b with
      | some x, some y => ((quantumBytes x y 0 0).take 1, none)
      | none, _ => ([], some (illegalBase64 i))
      | _, none => ([], some (illegalBase64 (i + 1)))
  | a :: b :: c :: d :: rest =>
      match base64Value a, base64Value b, base64Value c, base64Value d, d, rest with
      | some x, some y, some z, some w, _, _ =>
          let r := decodeQuanta (i + 4) rest
          (quantumBytes x y z w ++ r.1, r.2)
      | some x, some y, some z, none, '=', [] => ((quantumBytes x y z 0).take 2, none)
      | _, _, _, _, _, _ =>
          ([], some (illegalBase64 (i + [a, b, c, d].findIdx fun c => (base64Value c).isNone)))
  | _ => ([], some (illegalBase64 i))

/-- `base64.StdEncoding.DecodeString`, which skips line breaks. -/
def decodeStdBase64 (s : String) : Bytes × Option String :=
  decodeQuanta 0 (s.toList.filter fun c => c ≠ '\n' ∧ c ≠ '\r')

example : decodeStdBase64 "Yw==" = ([99], none) := by decide

/-- A census world whose trees are the lists of their claims, where every tree operation
succeeds, no storage is configured and every signature fails; `namespaces.json` cannot be
written when `saveFails`. Signatures and public keys are hex strings, as long as
`signature.SignatureLength` (65 bytes) and `signature.PubKeyLength` (a compressed key of 33
bytes) make them. -/
def listEnv (saveFails : Bool) : Env (List Bytes) where
  init _ _ := .ok []
  root _ := ""
  addClaim data t := .ok (t ++ [data])
  importDump claims t := .ok (t ++ claims.map fun c => c.toUTF8.data.toList)
  snapshot _ t := .ok t
  genProof _ _ := .ok ""
  size _ t := .ok t.length
  dump _ _ := .ok []
  dumpPlain _ _ := .ok []
  checkProof _ _ _ := .ok false
  decodeBase64 := decodeStdBase64
  decodeDump _ := .error "invalid character"
  marshalDump _ := .ok []
  marshalRequest _ := .ok ""
  verify _ _ _ := .ok false
  signatureLength := 130
  pubKeyLength := 66
  writeConfig _ := if saveFails then .error "read-only file system" else .ok ()
  storage := none
  now := 0

/-- A manager with no namespaces. -/
def Manager.empty : Manager (List Bytes) := ⟨"", 10, ⟨"", []⟩, fun _ => none⟩

end Census
