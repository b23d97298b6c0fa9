import Dvote.Census.Remote
import Mathlib.Data.List.Basic

/-!
# The file API of the router

`fetchFile`, `addFile`, `pinList`, `pinFile` and `unpinFile` of the router answer a client's
request through the storage the census manager also uses (`URIprefix`, `Retrieve`,
`Publish`) and its pin calls. A request is answered with a reply, or with an error by
`sendError`; `addFile` answers nothing at all to a request of a type other than `ipfs`.

`fetchFile` takes a comma-separated list of URIs and fetches the first whose transport it
supports, and only that one: what it answers does not depend on the URIs after it, even when
that fetch fails (`fetchFile_first_supported`). An IPFS URI is fetched by its last
`/`-separated part, so a file added by `addFile` is fetched back from the URI of the reply, as
the base64 it was added as, when the storage serves what it published and the base64 codec
reads back what it wrote; an empty file is added but is never fetched back
(`fetchFile_addFile`). In the same way, a census that the census handler publishes is served
to clients by the router from the URI the handler answers (`fetchFile_publish`).
-/

namespace Router

open Census (Storage bytesFrom)

/-- Go's `strings.Split(s, sep)` for a one-byte separator, which is never part of another
character's UTF-8 encoding: the parts of `s` between the separators. -/
def goSplit (sep : Char) (s : String) : List String := (s.data.splitOn sep).map String.mk

/-- `IPFSHandle.URIprefix()`. -/
def ipfsURIPrefix : String := "ipfs://"

/-- What the router calls outside itself. -/
structure Env where
  /-- The storage: `URIprefix`, `Retrieve` and `Publish`. -/
  storage : Storage
  /-- `Pin(ctx, path)`. -/
  pin : String → Except String Unit
  /-- `Unpin(ctx, path)`. -/
  unpin : String → Except String Unit
  /-- `ListPins(ctx)`: each pinned path with the type of its pin. -/
  listPins : Except String (List (String × String))
  /-- `json.Marshal` of the pins. -/
  marshalPins : List (String × String) → Except String Bytes
  /-- `base64.StdEncoding.DecodeString`. -/
  decodeBase64 : String → Except String Bytes
  /-- `base64.StdEncoding.EncodeToString`. -/
  encodeBase64 : Bytes → String
  /-- `parseTransportFromURI`, on each URI: its transport. -/
  transportOf : String → String

/-- The fields of `types.MetaResponse` the router sets. -/
structure Response where
  content : String := ""
  uri : String := ""
  files : Bytes := []
  deriving DecidableEq, Repr

variable (env : Env)

/-- The loop of `fetchFile` over the URIs with their transports: the first URI whose transport
is supported is fetched, and the loop stops there; `none` when no transport is supported. An
IPFS URI is fetched by the last of its `/`-separated parts, and no content is an error. -/
def fetchLoop : List (String × String) → Option (Except String Bytes)
  | [] => none
  | (uri, t) :: rest =>
      if t = "ipfs:" then
        some (match env.storage.retrieve (bytesFrom ((goSplit '/' uri).getLastD "") 0) with
          | .error e => .error e
          | .ok content =>
              if content.length = 0 then .error "no content fetched" else .ok content)
      else if t = "bzz:" ∨ t = "bzz-feed" then
        some (.error "bzz and bzz-feed not implemented yet")
      else fetchLoop rest

/-- `fetchFile`: the content of the first URI of `uri` whose transport is supported, in base64. -/
def fetchFile (uri : String) : Except String Response :=
  let parsedURIs := goSplit ',' uri
  match fetchLoop env (parsedURIs.map fun u => (u, env.transportOf u)) with
  | some (.error e) => .error ("error fetching file: (" ++ e ++ ")")
  | none => .error "error fetching file: (not supported)"
  | some (.ok content) => .ok { content := env.encodeBase64 content }

/-- `addFile`: the base64 content of the request is published when the request's type is
`ipfs`, and answered with the URI of what was published. Any other type is left unanswered. -/
def addFile (type content : String) : Option (Except String Response) :=
  match env.decodeBase64 content with
  | .error _ => some (.error "could not decode base64 content")
  | .ok bytes =>
      if type = "ipfs" then
        some (match env.storage.publish bytes with
          | .error e => .error ("cannot add file (" ++ e ++ ")")
          | .ok cid => .ok { uri := env.storage.uriPrefix ++ cid })
      else none

/-- `pinList`: the pins, as JSON. -/
def pinList : Except String Response :=
  match env.listPins with
  | .error e => .error ("internal error fetching pins (" ++ e ++ ")")
  | .ok pins =>
      match env.marshalPins pins with
      | .error e => .error ("internal error parsing pins (" ++ e ++ ")")
      | .ok json => .ok { files := json }

/-- `pinFile` and `unpinFile`: the storage call on the request's URI, an error answered with the
handler's message. -/
def pinCall (call : String → Except String Unit) (msg uri : String) : Except String Response :=
  match call uri with
  | .error e => .error (msg ++ " (" ++ e ++ ")")
  | .ok () => .ok {}

/-- `pinFile`. -/
def pinFile (uri : String) : Except String Response := pinCall env.pin "error pinning file" uri

/-- `unpinFile`. -/
def unpinFile (uri : String) : Except String Response :=
  pinCall env.unpin "could not unpin file" uri

/-! ### `strings.Split` -/

/-- No part of a split holds the separator. -/
theorem not_mem_of_mem_splitOn {c : Char} {l part : List Char} (h : part ∈ l.splitOn c) :
  c ∉ part
  := by
  induction l generalizing part with
  | nil =>
      obtain rfl : part = [] := by simpa using h
      exact List.not_mem_nil c
  | cons x xs ih =>
      unfold List.splitOn at h ih
      rw [List.splitOnP_cons] at h
      split at h
      · rcases List.mem_cons.mp h with rfl | h
        · exact List.not_mem_nil c
        · exact ih h
      · next hx =>
          obtain ⟨hd, tl, hsplit⟩ := List.exists_cons_of_ne_nil (List.splitOnP_ne_nil _ xs)
          rw [hsplit, List.modifyHead_cons] at h
          rcases List.mem_cons.mp h with rfl | h
          · have hc : c ∉ hd := ih (hsplit ▸ List.mem_cons_self hd tl)
            simp only [beq_iff_eq] at hx
            simpa [Ne.symm hx] using hc
          · exact ih (hsplit ▸ List.mem_cons_of_mem hd h)

/-- A list without the separator splits into itself. -/
theorem splitOn_of_not_mem {c : Char} {l : List Char} (h : c ∉ l) :
  l.splitOn c = [l]
  := by
  refine List.splitOnP_eq_single _ _ fun x hx hxc => h ?_
  rwa [← beq_iff_eq.mp hxc]

/-- A string without the separator splits into itself. -/
theorem goSplit_of_not_mem {c : Char} {s : String} (h : c ∉ s.data) :
  goSplit c s = [s]
  := by
  rw [goSplit, splitOn_of_not_mem h]
  rfl

/-- A part of a split splits into itself. -/
theorem goSplit_of_mem_goSplit {c : Char} {s u : String} (h : u ∈ goSplit c s) :
  goSplit c u = [u]
  := by
  obtain ⟨part, hpart, rfl⟩ := List.mem_map.mp h
  exact goSplit_of_not_mem (not_mem_of_mem_splitOn hpart)

/-- The `/`-separated parts of an IPFS URI whose content id has no `/`. -/
theorem goSplit_ipfsURIPrefix {cid : String} (h : '/' ∉ cid.data) :
  goSplit '/' (ipfsURIPrefix ++ cid) = ["ipfs:", "", cid]
  := by
  have hdata : (ipfsURIPrefix ++ cid).data = ['i', 'p', 'f', 's', ':'] ++ '/' :: ([] ++ '/' ::
      cid.data) := rfl
  rw [goSplit, hdata, List.splitOn, List.splitOnP_first _ _ (by decide) _ (by decide),
    List.splitOnP_first _ _ (by decide) _ (by decide), ← List.splitOn, splitOn_of_not_mem h]
  rfl

/-! ### The fetch loop -/

/-- The transports `fetchFile` supports. -/
def supported (t : String) : Bool := t = "ipfs:" ∨ t = "bzz:" ∨ t = "bzz-feed"

/-- The loop passes over URIs whose transport is not supported. -/
theorem fetchLoop_append_unsupported (pre rest : List (String × String))
    (hpre : ∀ p ∈ pre, supported p.2 = false) :
  fetchLoop env (pre ++ rest) = fetchLoop env rest
  := by
  induction pre with
  | nil => rfl
  | cons p pre ih =>
      obtain ⟨u, t⟩ := p
      have ht : ¬ (t = "ipfs:" ∨ t = "bzz:" ∨ t = "bzz-feed") := by
        simpa [supported] using hpre (u, t) (.head _)
      rw [List.cons_append, fetchLoop, if_neg fun h => ht (.inl h), if_neg fun h => ht (.inr h),
        ih fun p hp => hpre p (.tail _ hp)]

/-- The loop stops at a URI whose transport is supported. -/
theorem fetchLoop_cons_supported (u t : String) (rest : List (String × String))
    (ht : supported t = true) :
  fetchLoop env ((u, t) :: rest) = fetchLoop env [(u, t)]
  := by
  have ht : t = "ipfs:" ∨ t = "bzz:" ∨ t = "bzz-feed" := by simpa [supported] using ht
  by_cases hipfs : t = "ipfs:"
  · simp only [fetchLoop, if_pos hipfs]
  · simp only [fetchLoop, if_neg hipfs, if_pos (ht.resolve_left hipfs)]

/-! ### What `fetchFile` fetches -/

/-- `fetchFile` fetches the first URI whose transport is supported and answers as if that URI
had been the whole request: the URIs after it are never tried, not even when its fetch fails. -/
theorem fetchFile_first_supported (uri u : String) (pre post : List String)
    (hsplit : goSplit ',' uri = pre ++ u :: post)
    (hpre : ∀ v ∈ pre, supported (env.transportOf v) = false)
    (hu : supported (env.transportOf u) = true) :
  fetchFile env uri = fetchFile env u
  := by
  have hu1 : goSplit ',' u = [u] := goSplit_of_mem_goSplit (c := ',') (s := uri) (by simp [hsplit])
  have hloop := fetchLoop_append_unsupported env (pre.map fun v => (v, env.transportOf v))
    ((u, env.transportOf u) :: post.map fun v => (v, env.transportOf v))
    (by simpa using hpre)
  simp only [fetchFile, hsplit, hu1, List.map_append, List.map_cons, List.map_nil, hloop,
    fetchLoop_cons_supported env u _ _ hu]

/-- A router whose storage publishes under the content id `Q` and serves the file `A` there,
whose base64 codec writes the bytes as characters, and which takes the transport of a URI to be
its first `/`-separated part. -/
def sampleEnv : Env where
  storage := ⟨ipfsURIPrefix, fun path => if path = [81] then .ok [65] else .error "no link named",
    fun _ => .ok "Q"⟩
  pin _ := .ok ()
  unpin _ := .ok ()
  listPins := .ok []
  marshalPins _ := .ok []
  decodeBase64 s := .ok (s.data.map fun ch => ch.toNat.toUInt8)
  encodeBase64 b := String.mk (b.map fun x => Char.ofNat x.toNat)
  transportOf u := String.mk ((u.data.splitOn '/').headD [])

/-- An FTP URI, then an IPFS URI the storage does not serve, then one it serves: the answer is
the error of the first IPFS URI. -/
theorem fetchFile_first_supported_sample :
  goSplit ',' "ftp://x,ipfs://R,ipfs://Q" = ["ftp://x"] ++ "ipfs://R" :: ["ipfs://Q"] ∧
    (∀ v ∈ ["ftp://x"], supported (sampleEnv.transportOf v) = false) ∧
    supported (sampleEnv.transportOf "ipfs://R") = true ∧
    fetchFile sampleEnv "ftp://x,ipfs://R,ipfs://Q" = fetchFile sampleEnv "ipfs://R"
  := by
  have hsplit : goSplit ',' "ftp://x,ipfs://R,ipfs://Q" = ["ftp://x"] ++ "ipfs://R" :: ["ipfs://Q"]
    := by decide
  have hpre : ∀ v ∈ ["ftp://x"], supported (sampleEnv.transportOf v) = false := by decide
  have hu : supported (sampleEnv.transportOf "ipfs://R") = true := by decide
  exact ⟨hsplit, hpre, hu, fetchFile_first_supported sampleEnv _ _ _ _ hsplit hpre hu⟩

/-- Fetching the IPFS URI of a content id without `/` or `,` retrieves that id, and answers
its content in base64 unless it is empty. -/
theorem fetchFile_ipfsURIPrefix {cid : String} {bytes : Bytes} (hslash : '/' ∉ cid.data)
    (hcomma : ',' ∉ cid.data) (htransport : env.transportOf (ipfsURIPrefix ++ cid) = "ipfs:")
    (hretrieve : env.storage.retrieve (bytesFrom cid 0) = .ok bytes) :
  fetchFile env (ipfsURIPrefix ++ cid)
    = if bytes = [] then .error "error fetching file: (no content fetched)"
      else .ok { content := env.encodeBase64 bytes }
  := by
  have hone : goSplit ',' (ipfsURIPrefix ++ cid) = [ipfsURIPrefix ++ cid] :=
    goSplit_of_not_mem (by simpa [ipfsURIPrefix] using hcomma)
  simp only [fetchFile, hone, List.map_cons, List.map_nil, htransport, fetchLoop, if_true,
    goSplit_ipfsURIPrefix hslash, List.getLastD_cons, List.getLastD_nil, hretrieve,
    List.length_eq_zero]
  by_cases hb : bytes = [] <;> simp [hb]

/-- A file added with the type `ipfs` is answered with the IPFS URI of its content id, and
fetching that URI answers the base64 it was added as, when the storage serves the content it
published under that id and the base64 codec reads back what it wrote. An empty file is added
but is never fetched back. -/
theorem fetchFile_addFile (content : String) {bytes : Bytes} {cid : String}
    (hdecode : env.decodeBase64 content = .ok bytes) (hencode : env.encodeBase64 bytes = content)
    (huriPrefix : env.storage.uriPrefix = ipfsURIPrefix)
    (hpub : env.storage.publish bytes = .ok cid)
    (hslash : '/' ∉ cid.data) (hcomma : ',' ∉ cid.data)
    (htransport : env.transportOf (ipfsURIPrefix ++ cid) = "ipfs:")
    (hretrieve : env.storage.retrieve (bytesFrom cid 0) = .ok bytes) :
  addFile env "ipfs" content = some (.ok { uri := ipfsURIPrefix ++ cid }) ∧
    fetchFile env (ipfsURIPrefix ++ cid)
      = if bytes = [] then .error "error fetching file: (no content fetched)"
        else .ok { content := content }
  := by
  refine ⟨by simp [addFile, hdecode, hpub, huriPrefix], ?_⟩
  rw [fetchFile_ipfsURIPrefix env hslash hcomma htransport hretrieve, hencode]

/-- The file `A`, added and fetched back. -/
theorem fetchFile_addFile_sample :
  sampleEnv.decodeBase64 "A" = .ok [65] ∧ sampleEnv.encodeBase64 [65] = "A" ∧
    sampleEnv.storage.uriPrefix = ipfsURIPrefix ∧ sampleEnv.storage.publish [65] = .ok "Q" ∧
    '/' ∉ "Q".data ∧ ',' ∉ "Q".data ∧
    sampleEnv.transportOf (ipfsURIPrefix ++ "Q") = "ipfs:" ∧
    sampleEnv.storage.retrieve (bytesFrom "Q" 0) = .ok [65] ∧
    (addFile sampleEnv "ipfs" "A" = some (.ok { uri := ipfsURIPrefix ++ "Q" }) ∧
      fetchFile sampleEnv (ipfsURIPrefix ++ "Q")
        = if ([65] : Bytes) = [] then .error "error fetching file: (no content fetched)"
          else .ok { content := "A" })
  := ⟨rfl, rfl, rfl, rfl, by decide, by decide, rfl, rfl,
    fetchFile_addFile sampleEnv "A" rfl rfl rfl rfl (by decide) (by decide) rfl rfl⟩

/-! ### Censuses published by the census handler -/

/-- A census the census handler publishes is served by the router: fetching the URI the
`publish` method answers gives the dump it published, in base64, when the router and the
census manager share the storage, the storage serves what it published under its content id,
and the dump is not empty. -/
theorem fetchFile_publish {τ : Type} (cenv : Census.Env τ) (r : Census.MetaRequest) (tr : τ)
    (resp : Census.MetaResponse) (m : Census.Manager τ) {claims : List String}
    {dumpBytes : Bytes} {cid : String} (hst : cenv.storage = some env.storage)
    (huriPrefix : env.storage.uriPrefix = ipfsURIPrefix)
    (hdump : cenv.dump (cenv.root tr) tr = .ok claims)
    (hmarshal : cenv.marshalDump ⟨cenv.root tr, claims⟩ = .ok dumpBytes)
    (hpub : env.storage.publish dumpBytes = .ok cid) (hslash : '/' ∉ cid.data)
    (hcomma : ',' ∉ cid.data) (htransport : env.transportOf (ipfsURIPrefix ++ cid) = "ipfs:")
    (hretrieve : env.storage.retrieve (bytesFrom cid 0) = .ok dumpBytes)
    (hne : dumpBytes ≠ []) :
  fetchFile env (Census.Manager.publish cenv r true tr resp m).2.uri
    = .ok { content := env.encodeBase64 dumpBytes }
  := by
  rw [Census.Manager.publish_eq_ok cenv r tr resp m hst hdump hmarshal hpub]
  dsimp only
  rw [huriPrefix, fetchFile_ipfsURIPrefix env hslash hcomma htransport hretrieve, if_neg hne]

/-- The router of `sampleEnv` on the storage of the census manager's `publishingEnv`. -/
def publishingRouter : Env :=
  { sampleEnv with storage := ⟨"ipfs://",
      fun path => if path = [81] then .ok [1] else .error "no link named", fun _ => .ok "Q"⟩ }

/-- The census `c` of one claim, published and fetched through the router. -/
theorem fetchFile_publish_sample :
  Census.Manager.publishingEnv.storage = some publishingRouter.storage ∧
    publishingRouter.storage.uriPrefix = ipfsURIPrefix ∧
    Census.Manager.publishingEnv.dump (Census.Manager.publishingEnv.root []) [] = .ok ["c"] ∧
    Census.Manager.publishingEnv.marshalDump ⟨Census.Manager.publishingEnv.root [], ["c"]⟩
      = .ok [1] ∧
    publishingRouter.storage.publish [1] = .ok "Q" ∧ '/' ∉ "Q".data ∧ ',' ∉ "Q".data ∧
    publishingRouter.transportOf (ipfsURIPrefix ++ "Q") = "ipfs:" ∧
    publishingRouter.storage.retrieve (bytesFrom "Q" 0) = .ok [1] ∧ ([1] : Bytes) ≠ [] ∧
    fetchFile publishingRouter (Census.Manager.publish Census.Manager.publishingEnv
        { method := "publish", censusID := "c" } true [] {} Census.Manager.empty).2.uri
      = .ok { content := publishingRouter.encodeBase64 [1] }
  := ⟨rfl, rfl, rfl, rfl, rfl, by decide, by decide, rfl, rfl, by decide,
    fetchFile_publish publishingRouter Census.Manager.publishingEnv _ [] {} _ rfl rfl rfl rfl rfl
      (by decide) (by decide) rfl rfl (by decide)⟩

end Router
