import Dvote.Census.Import
import Mathlib.Data.String.Basic

/-!
# Publishing a census and importing it back

`publish` dumps the tree of a census, publishes the dump to the storage and answers the URI
`URIprefix() ++ cid` of what it published; `importRemote` takes such a URI, checks that it starts
with the prefix and is longer than it, retrieves the path after the prefix and imports the dump
found there.

The URI checks are Go string operations on the URI as bytes: a prefix followed by anything
passes `strings.HasPrefix` (`isPrefixOf_append`), and slicing after the prefix gives the rest
back (`bytesFrom_append`). So a census published by one handler is imported back by the other,
exactly as `importDump` of the published claims would import it, when the storage serves what
was published and the JSON codec reads back what it wrote (`importRemote_of_publish`). A
census published without claims cannot be imported back.

The import daemon of another node, given the census id and the URI the publication announces,
imports the census under that id without panicking (`importQueueDaemon_of_publish`).
-/

namespace Census

/-! ### URIs as Go strings -/

/-- The comparison loop of `strings.HasPrefix` over a string and any extension of it, from a
position both share. -/
theorem substrEq_loop_append (l m c : List Char) :
  String.substrEq.loop ⟨l ++ m⟩ ⟨l ++ m ++ c⟩ ⟨String.utf8Len l⟩ ⟨String.utf8Len l⟩
    ⟨String.utf8Len l + String.utf8Len m⟩ = true
  := by
  induction m generalizing l with
  | nil =>
      unfold String.substrEq.loop
      simp
  | cons x m ih =>
      unfold String.substrEq.loop
      have hlt : String.utf8Len l < String.utf8Len l + String.utf8Len (x :: m) := by
        have := Char.utf8Size_pos x
        simp only [String.utf8Len_cons]
        omega
      rw [dif_pos hlt]
      -- both strings have `x` at the shared position
      have h1 : String.get ⟨l ++ x :: m⟩ ⟨String.utf8Len l⟩ = x := String.get_of_valid _ _
      have h2 : String.get ⟨l ++ x :: m ++ c⟩ ⟨String.utf8Len l⟩ = x := by
        rw [List.append_assoc]
        exact String.get_of_valid _ _
      simp only [h1, h2, beq_self_eq_true, Bool.true_and, String.Pos.addChar_eq]
      have hstop : String.utf8Len l + String.utf8Len (x :: m)
          = String.utf8Len (l ++ [x]) + String.utf8Len m := by
        simp only [String.utf8Len_append, String.utf8Len_cons, String.utf8Len_nil]
        omega
      have hpos : String.utf8Len l + x.utf8Size = String.utf8Len (l ++ [x]) := by
        simp
      rw [hstop, hpos]
      simpa using ih (l ++ [x])

/-- `strings.HasPrefix(p + c, p)`. -/
theorem isPrefixOf_append (p c : String) :
  p.isPrefixOf (p ++ c) = true
  := by
  obtain ⟨l⟩ := p
  obtain ⟨m⟩ := c
  have hloop := substrEq_loop_append [] l m
  simp only [List.nil_append, String.utf8Len_nil, Nat.zero_add] at hloop
  rw [show (⟨l⟩ ++ ⟨m⟩ : String) = ⟨l ++ m⟩ from rfl]
  simpa [String.isPrefixOf, String.substrEq, String.endPos] using hloop

/-- `len(p + c) = len(p) + len(c)`, in bytes. -/
theorem utf8ByteSize_append (p c : String) :
  (p ++ c).utf8ByteSize = p.utf8ByteSize + c.utf8ByteSize
  := by
  obtain ⟨l⟩ := p
  obtain ⟨m⟩ := c
  exact String.utf8Len_append l m

/-- `(p + c)[len(p):]` is `c`. -/
theorem bytesFrom_append (p c : String) :
  bytesFrom (p ++ c) p.utf8ByteSize = bytesFrom c 0
  := by
  have hlen : (p.data.flatMap String.utf8EncodeChar).length = p.utf8ByteSize := by
    simpa [String.toUTF8, ByteArray.size] using String.size_toUTF8 p
  simp only [bytesFrom, String.toUTF8, String.data_append, List.flatMap_append, List.drop_zero]
  rw [← hlen, List.drop_left]

namespace Manager

variable {τ : Type} (env : Env τ)

/-! ### The round trip -/

/-- A `publish` whose dump is published answers the URI of the content id and the tree's
root, and adds the dump as a namespace named by the root. -/
theorem publish_eq_ok (r : MetaRequest) (tr : τ) (resp : MetaResponse) (m : Manager τ)
    {st : Storage} {claims : List String} {dumpBytes : Bytes} {cid : String}
    (hst : env.storage = some st) (hdump : env.dump (env.root tr) tr = .ok claims)
    (hmarshal : env.marshalDump ⟨env.root tr, claims⟩ = .ok dumpBytes)
    (hpub : st.publish dumpBytes = .ok cid) :
  publish env r true tr resp m
    = (m.addPublished env (env.root tr) r.pubKeys claims,
        { resp with uri := st.uriPrefix ++ cid, root := env.root tr })
  := by
  simp [publish, hst, hdump, hmarshal, hpub]

/-- A census published by `publish` is imported back by `importRemote` from the URI of the
response, when the storage serves the published dump under its content id and the JSON codec
reads back what it wrote: every check of `importRemote` passes, and the tree it runs on ends as
`importDump` of the published claims leaves it. A census published without claims is refused. -/
theorem importRemote_of_publish (r r' : MetaRequest) (tr tr' : τ) (resp resp' : MetaResponse)
    (m : Manager τ) {st : Storage} {claims : List String} {dumpBytes : Bytes} {cid : String}
    (hst : env.storage = some st) (hdump : env.dump (env.root tr) tr = .ok claims)
    (hmarshal : env.marshalDump ⟨env.root tr, claims⟩ = .ok dumpBytes)
    (hpub : st.publish dumpBytes = .ok cid) (hcid : 0 < cid.utf8ByteSize)
    (hretrieve : st.retrieve (bytesFrom cid 0) = .ok dumpBytes)
    (hdecode : env.decodeDump dumpBytes = .ok ⟨env.root tr, claims⟩)
    (huri : r'.uri = (publish env r true tr resp m).2.uri) :
  (importRemote env r' true tr' resp').1
      = (importDump env { r' with claimsData := claims } true tr' resp').1 ∧
    (claims = [] → (importRemote env r' true tr' resp').2 = resp'.setError "no claims found")
  := by
  rw [publish_eq_ok env r tr resp m hst hdump hmarshal hpub] at huri
  dsimp only at huri
  have hlong : ¬ (st.uriPrefix ++ cid).utf8ByteSize ≤ st.uriPrefix.utf8ByteSize := by
    rw [utf8ByteSize_append]
    omega
  unfold importRemote importDump
  simp only [huri, hst, isPrefixOf_append, hlong, bytesFrom_append, hretrieve, hdecode,
    Bool.not_true, Bool.false_or, decide_False, Bool.false_eq_true, if_false, if_true]
  refine ⟨?_, fun hnil => by simp [hnil]⟩
  split
  · split <;> rfl
  · rfl

/-- A census published by one node is imported by the import daemon of a node that has no tree
for it, from the census id (the published root) and the URI of the publication: the daemon
does not panic, and the census id ends with the imported tree, when the storage serves the
published dump, the JSON codec reads back what it wrote, the dump holds claims, and importing
them builds a tree with the published root. -/
theorem importQueueDaemon_of_publish (r : MetaRequest) (tr : τ) (resp : MetaResponse)
    (m m' : Manager τ) {st : Storage} {claims : List String} {dumpBytes : Bytes} {cid : String}
    {tr₀ tr' : τ} (hst : env.storage = some st) (hdump : env.dump (env.root tr) tr = .ok claims)
    (hmarshal : env.marshalDump ⟨env.root tr, claims⟩ = .ok dumpBytes)
    (hpub : st.publish dumpBytes = .ok cid)
    (hretrieve : st.retrieve (bytesFrom cid 0) = .ok dumpBytes)
    (hdecode : env.decodeDump dumpBytes = .ok ⟨env.root tr, claims⟩) (hclaims : claims ≠ [])
    (hnew : m'.trees (env.root tr) = none)
    (hadd : (m'.addNamespace env (env.root tr) []).2 = .ok tr₀)
    (himport : env.importDump claims tr₀ = .ok tr') (hroot : env.root tr' = env.root tr) :
  ∃ m'', m'.importQueueDaemon env [⟨env.root tr, (publish env r true tr resp m).2.uri⟩]
      = some m'' ∧ m''.trees (env.root tr) = some tr'
  := by
  rw [publish_eq_ok env r tr resp m hst hdump hmarshal hpub]
  rcases hA : m'.addNamespace env (env.root tr) [] with ⟨mA, added⟩
  rw [hA] at hadd
  subst hadd
  -- the URI slices to the content id, whose dump is fetched, decoded and imported
  refine ⟨mA.setTree (env.root tr) tr', ?_, by simp⟩
  simp [importQueueDaemon, importQueueDaemonStep, hnew, hst, sliceFrom, utf8ByteSize_append,
    bytesFrom_append, hretrieve, importFetched, hdecode, List.length_eq_zero, hclaims, hA,
    himport, hroot]

/-- The census `c` of one claim, published and imported back into an empty tree. -/
theorem importRemote_of_publish_sample :
  let r : MetaRequest := { method := "publish", censusID := "c" }
  let r' : MetaRequest := { method := "importRemote", censusID := "d", uri := "ipfs://Q" }
  let st : Storage := ⟨"ipfs://",
    fun path => if path = [81] then .ok [1] else .error "no link named", fun _ => .ok "Q"⟩
  publishingEnv.storage = some st ∧
    publishingEnv.dump (publishingEnv.root []) [] = .ok ["c"] ∧
    publishingEnv.marshalDump ⟨publishingEnv.root [], ["c"]⟩ = .ok [1] ∧
    st.publish [1] = .ok "Q" ∧ 0 < "Q".utf8ByteSize ∧
    st.retrieve (bytesFrom "Q" 0) = .ok [1] ∧
    publishingEnv.decodeDump [1] = .ok ⟨publishingEnv.root [], ["c"]⟩ ∧
    r'.uri = (publish publishingEnv r true [] {} empty).2.uri ∧
    ((importRemote publishingEnv r' true [] {}).1
        = (importDump publishingEnv { r' with claimsData := ["c"] } true [] {}).1 ∧
      (["c"] = [] →
        (importRemote publishingEnv r' true [] {}).2 = MetaResponse.setError "no claims found" {}))
  := ⟨rfl, rfl, rfl, rfl, by decide, rfl, rfl, rfl,
    importRemote_of_publish publishingEnv { method := "publish", censusID := "c" }
      { method := "importRemote", censusID := "d", uri := "ipfs://Q" } [] [] {} {} empty rfl rfl
      rfl rfl (by decide) rfl rfl rfl⟩

/-- The census `r` of one claim, published, and imported by the daemon of a node without
censuses. -/
theorem importQueueDaemon_of_publish_sample :
  let r : MetaRequest := { method := "publish", censusID := "c" }
  let st : Storage := ⟨"ipfs://",
    fun path => if path = [81] then .ok [1] else .error "no link named", fun _ => .ok "Q"⟩
  publishingEnv.storage = some st ∧
    publishingEnv.dump (publishingEnv.root []) [] = .ok ["c"] ∧
    publishingEnv.marshalDump ⟨publishingEnv.root [], ["c"]⟩ = .ok [1] ∧
    st.publish [1] = .ok "Q" ∧ st.retrieve (bytesFrom "Q" 0) = .ok [1] ∧
    publishingEnv.decodeDump [1] = .ok ⟨publishingEnv.root [], ["c"]⟩ ∧ ["c"] ≠ [] ∧
    empty.trees (publishingEnv.root []) = none ∧
    (empty.addNamespace publishingEnv (publishingEnv.root []) []).2 = .ok [] ∧
    publishingEnv.importDump ["c"] [] = .ok [[99]] ∧
    publishingEnv.root [[99]] = publishingEnv.root [] ∧
    ∃ m'', empty.importQueueDaemon publishingEnv
        [⟨publishingEnv.root [], (publish publishingEnv r true [] {} empty).2.uri⟩] = some m'' ∧
      m''.trees (publishingEnv.root []) = some [[99]]
  := ⟨rfl, rfl, rfl, rfl, rfl, rfl, by decide, rfl, rfl, rfl, rfl,
    importQueueDaemon_of_publish publishingEnv { method := "publish", censusID := "c" } [] {}
      empty empty rfl rfl rfl rfl rfl rfl (by decide) rfl rfl rfl rfl⟩

end Manager

end Census
