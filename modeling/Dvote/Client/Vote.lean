import Dvote.Bytes

/-!
# The vote packages the client casts

`genVote(encrypted, keys)` of `client/util.go` builds the vote package of a test voter and
answers it in base64. An encrypted package is sealed once per non-empty key, in order: before
the first seal the package gets a random nonce and is marshalled to JSON, and each seal is
`nacl.Anonymous.Encrypt` with the key. The codecs, the sealed boxes and the random nonce are not
under src, so they are a `VoteEnv`.

The loop seals the marshalled package with the decoded non-empty keys in order
(`sealLoop_ok`). Sealed boxes open in the reverse order (`openLayers_sealAll`), so the package
`genVote` answers opens, with the matching private keys from the last key to the first, to the
JSON of the package with its nonce: the spec's final-results computation decrypts an envelope
with the published keys in reverse order (`genVote_opens`). With encryption asked for and no
non-empty key, the answer is the base64 of no bytes at all: the package is never marshalled.
-/

namespace Client

/-- `types.VotePackage`. -/
structure VotePackage where
  nonce : String := ""
  type : String := ""
  votes : List Int := []
  deriving DecidableEq, Repr

/-- What `genVote` calls: `π` is a public key of `nacl`. -/
structure VoteEnv (π : Type) where
  /-- `nacl.DecodePublic(key)`. -/
  decodePublic : String → Except String π
  /-- `nacl.Anonymous.Encrypt(message, pub)`. -/
  encrypt : Bytes → π → Except String Bytes
  /-- `json.Marshal` of a vote package. -/
  marshal : VotePackage → Except String Bytes
  /-- `base64.StdEncoding.EncodeToString`. -/
  encodeBase64 : Bytes → String
  /-- The nonce `RandomHex(rand.Intn(16) + 16)` draws. -/
  nonce : String

variable {π : Type} (env : VoteEnv π)

/-- The package `genVote` casts: six answers, no nonce. -/
def castPackage : VotePackage := { votes := [1, 2, 3, 4, 5, 6] }

/-- The loop of `genVote` over the keys with their indexes: an empty key is skipped; any other
is decoded and seals the bytes so far, and before the first seal the package is given its nonce
and marshalled. -/
def sealLoop (first : Bool) (vpBytes : Bytes) : List (Nat × String) → Except String Bytes
  | [] => .ok vpBytes
  | (i, k) :: rest =>
      if 0 < k.utf8ByteSize then
        match env.decodePublic k with
        | .error e => .error ("cannot decode encryption key with index " ++ toString i ++ ": ("
            ++ e ++ ")")
        | .ok pub =>
            match (if first then env.marshal { castPackage with nonce := env.nonce }
                else .ok vpBytes) with
            | .error e => .error e
            | .ok plain =>
                match env.encrypt plain pub with
                | .error e => .error ("cannot encrypt: (" ++ e ++ ")")
                | .ok sealed => sealLoop false sealed rest
      else sealLoop first vpBytes rest

/-- `genVote(encrypted, keys)`. -/
def genVote (encrypted : Bool) (keys : List String) : Except String String :=
  if encrypted then (sealLoop env true [] keys.enum).map env.encodeBase64
  else (env.marshal castPackage).map env.encodeBase64

/-- Sealing bytes with keys in order. -/
def sealAll (pubs : List π) (b : Bytes) : Except String Bytes :=
  pubs.foldlM (fun b p => env.encrypt b p) b

/-- From the spec: opening sealed layers with the private keys of `pubs`, in the order given;
`decrypt p` opens a box sealed with `p`. -/
def openLayers (decrypt : π → Bytes → Option Bytes) : List π → Bytes → Option Bytes
  | [], b => some b
  | p :: ps, b => (decrypt p b).bind (openLayers decrypt ps)

/-- The keys `genVote` seals with. -/
def sealingKeys (keys : List String) : List String := keys.filter (0 < ·.utf8ByteSize)

/-! ### The loop -/

/-- The keys sealed with, from the first key on. -/
theorem sealingKeys_cons (k : String) (ks : List String) :
  sealingKeys (k :: ks) = if 0 < k.utf8ByteSize then k :: sealingKeys ks else sealingKeys ks
  := by
  by_cases hk : 0 < k.utf8ByteSize <;> simp [sealingKeys, List.filter_cons, hk]

/-- What the loop does when it answers: every non-empty key decodes, and with none the bytes
are left as they were; otherwise the plain bytes (the package marshalled with its nonce, or
before the first seal the bytes given) are sealed with the decoded keys in order. -/
theorem sealLoop_ok (ks : List (Nat × String)) {first : Bool} {vpBytes out : Bytes}
    (h : sealLoop env first vpBytes ks = .ok out) :
  ∃ pubs, (sealingKeys (ks.map Prod.snd)).mapM env.decodePublic = .ok pubs ∧
    (pubs = [] → out = vpBytes) ∧
    (pubs ≠ [] → ∃ plain, (if first then env.marshal { castPackage with nonce := env.nonce }
      else .ok vpBytes) = .ok plain ∧ sealAll env pubs plain = .ok out)
  := by
  induction ks generalizing first vpBytes with
  | nil =>
      cases h
      exact ⟨[], rfl, fun _ => rfl, fun h => absurd rfl h⟩
  | cons ik rest ih =>
      obtain ⟨i, k⟩ := ik
      unfold sealLoop at h
      by_cases hk : 0 < k.utf8ByteSize
      · rw [if_pos hk] at h
        cases hdec : env.decodePublic k with
        | error e => simp [hdec] at h
        | ok pub =>
            rw [hdec] at h
            cases hplain : (if first then env.marshal { castPackage with nonce := env.nonce }
                else .ok vpBytes) with
            | error e => simp [hplain] at h
            | ok plain =>
                simp only [hplain] at h
                cases henc : env.encrypt plain pub with
                | error e => simp [henc] at h
                | ok sealed =>
                    simp only [henc] at h
                    obtain ⟨pubs, hmap, hnil, hsealed⟩ := ih h
                    refine ⟨pub :: pubs, ?_, nofun, fun _ => ⟨plain, rfl, ?_⟩⟩
                    · rw [List.map_cons, sealingKeys_cons, if_pos hk, List.mapM_cons, hdec, hmap]
                      rfl
                    · -- the later seals start from the first sealed bytes
                      by_cases hp : pubs = []
                      · simp [sealAll, hp, henc, hnil hp]
                      · obtain ⟨plain', hplain', hrest⟩ := hsealed hp
                        simp only [Bool.false_eq_true, ↓reduceIte, Except.ok.injEq] at hplain'
                        subst hplain'
                        simpa [sealAll, henc] using hrest
      · rw [if_neg hk] at h
        obtain ⟨pubs, hmap, hnil, hsealed⟩ := ih h
        exact ⟨pubs, by rwa [List.map_cons, sealingKeys_cons, if_neg hk], hnil, hsealed⟩

/-! ### Opening the layers -/

/-- Opening with two lists of keys in turn. -/
theorem openLayers_append (decrypt : π → Bytes → Option Bytes) (xs ys : List π) (b : Bytes) :
  openLayers decrypt (xs ++ ys) b = (openLayers decrypt xs b).bind (openLayers decrypt ys)
  := by
  induction xs generalizing b with
  | nil => rfl
  | cons p ps ih =>
      simp only [List.cons_append, openLayers]
      cases decrypt p b with
      | none => rfl
      | some b' => exact ih b'

/-- Layers sealed with keys in order open with the matching private keys in reverse order. -/
theorem openLayers_sealAll (decrypt : π → Bytes → Option Bytes)
    (hopen : ∀ m p c, env.encrypt m p = .ok c → decrypt p c = some m) (pubs : List π)
    {b c : Bytes} (h : sealAll env pubs b = .ok c) :
  openLayers decrypt pubs.reverse c = some b
  := by
  induction pubs generalizing b with
  | nil =>
      cases h
      rfl
  | cons p ps ih =>
      cases henc : env.encrypt b p with
      | error e =>
          simp only [sealAll, List.foldlM_cons, henc] at h
          cases h
      | ok b' =>
          have hrest : sealAll env ps b' = .ok c := by simpa [sealAll, henc] using h
          rw [List.reverse_cons, openLayers_append, ih hrest]
          simp [openLayers, hopen b p b' henc]

/-! ### The round trip -/

/-- An encrypted vote package `genVote` answers is the base64 of bytes that open, with the
private keys of the non-empty keys from the last to the first, to the JSON of the package with
its nonce, when every box opens to what was sealed in it. With no non-empty key they are no
bytes at all. -/
theorem genVote_opens (keys : List String) {s : String} (decrypt : π → Bytes → Option Bytes)
    (hopen : ∀ m p c, env.encrypt m p = .ok c → decrypt p c = some m)
    (h : genVote env true keys = .ok s) :
  ∃ pubs bytes, (sealingKeys keys).mapM env.decodePublic = .ok pubs ∧
    s = env.encodeBase64 bytes ∧ (pubs = [] → bytes = []) ∧
    (pubs ≠ [] → ∃ json, env.marshal { castPackage with nonce := env.nonce } = .ok json ∧
      openLayers decrypt pubs.reverse bytes = some json)
  := by
  unfold genVote at h
  rw [if_pos rfl] at h
  cases hloop : sealLoop env true [] keys.enum with
  | error e =>
      rw [hloop] at h
      cases h
  | ok bytes =>
      simp only [hloop, Except.map, Except.ok.injEq] at h
      obtain ⟨pubs, hmap, hnil, hsealed⟩ := sealLoop_ok env _ hloop
      rw [List.enum_map_snd] at hmap
      refine ⟨pubs, bytes, hmap, h.symm, hnil, fun hp => ?_⟩
      obtain ⟨json, hjson, hseal⟩ := hsealed hp
      exact ⟨json, hjson, openLayers_sealAll env decrypt hopen pubs hseal⟩

/-- Sealed boxes that prefix the key's length, a JSON codec that writes the answers as bytes,
and base64 as the bytes' characters. -/
def taggingEnv : VoteEnv String where
  decodePublic k := .ok k
  encrypt m p := .ok (p.length.toUInt8 :: m)
  marshal vp := .ok (vp.votes.map fun v => v.toNat.toUInt8)
  encodeBase64 b := String.mk (b.map fun x => Char.ofNat x.toNat)
  nonce := "00"

/-- Opens a box of `taggingEnv` sealed with `p`. -/
def untag (p : String) : Bytes → Option Bytes
  | x :: rest => if x = p.length.toUInt8 then some rest else none
  | [] => none

/-- Two keys around an empty one: the package is sealed with `k`, then with `key`. -/
theorem genVote_opens_sample :
  let keys := ["k", "", "key"]
  let s := taggingEnv.encodeBase64 [3, 1, 1, 2, 3, 4, 5, 6]
  (∀ m p c, taggingEnv.encrypt m p = .ok c → untag p c = some m) ∧
    genVote taggingEnv true keys = .ok s ∧
    ∃ pubs bytes, (sealingKeys keys).mapM taggingEnv.decodePublic = .ok pubs ∧
      s = taggingEnv.encodeBase64 bytes ∧ (pubs = [] → bytes = []) ∧
      (pubs ≠ [] → ∃ json,
        taggingEnv.marshal { castPackage with nonce := taggingEnv.nonce } = .ok json ∧
        openLayers untag pubs.reverse bytes = some json)
  := by
  have hopen : ∀ m p c, taggingEnv.encrypt m p = .ok c → untag p c = some m := by
    intro m p c h
    cases h
    simp [untag]
  exact ⟨hopen, rfl, genVote_opens taggingEnv _ untag hopen rfl⟩

end Client
