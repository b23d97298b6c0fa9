import Dvote.Census.Manager

/-!
# Starting the vochain service

`Vochain` of `service/vochain.go` works out the public address the node announces and the
genesis it starts the node with, before it calls `NewVochain`. A genesis file named in the
configuration is used as it is. Otherwise the local genesis under the data directory is kept,
unless it differs from the hardcoded genesis of the network and the network auto-updates its
genesis or the node runs in development mode: then the whole data directory is removed and the
hardcoded genesis used. With no local genesis, the hardcoded one is used.

So on an auto-updating network or in development mode, with no genesis file named, a node that
starts always starts with the hardcoded genesis (`vochain_starts_hardcoded`).
-/

namespace Service

open Census (bytesFrom)

/-- The fields of `config.VochainCfg` that `Vochain` reads or sets before `NewVochain`. -/
structure VochainCfg where
  chain : String
  publicAddr : String
  p2pListen : String
  genesis : String
  dataDir : String
  dev : Bool
  tendermintMetrics : Bool
  deriving DecidableEq, Repr

/-- An entry of `vochain.Genesis`: the hardcoded genesis of a network. The defaults are the zero
value that a network missing from the map reads as. -/
structure GenesisEntry where
  genesis : String := ""
  autoUpdateGenesis : Bool := false
  deriving DecidableEq, Repr

/-- What `Vochain` calls outside itself before `NewVochain`. -/
structure Env where
  /-- `util.PublicIP()`, as a string. -/
  publicIP : Except String String
  /-- `net.SplitHostPort`. -/
  splitHostPort : String → Except String (String × String)
  /-- `net.JoinHostPort`. -/
  joinHostPort : String → String → String
  /-- The error of `os.Stat(path)`, if any. -/
  stat : String → Option String
  /-- `ioutil.ReadFile`. -/
  readFile : String → Except String Bytes
  /-- `os.RemoveAll`. -/
  removeAll : String → Except String Unit
  /-- `os.IsNotExist`. -/
  isNotExist : String → Bool
  /-- `vochain.Genesis`. -/
  hardcoded : String → Option GenesisEntry

variable (env : Env)

/-- The public address `Vochain` announces: a given address is split and joined again; with
none, the public IP is joined with the port of the P2P address, and the address is left empty
when the public IP cannot be found. -/
def publicAddr (cfg : VochainCfg) : Except String String :=
  if cfg.publicAddr.utf8ByteSize = 0 then
    match env.publicIP with
    | .error _ => .ok cfg.publicAddr
    | .ok ip => (env.splitHostPort cfg.p2pListen).map fun (_, port) => env.joinHostPort ip port
  else (env.splitHostPort cfg.publicAddr).map fun (host, port) => env.joinHostPort host port

/-- The error of a network with no hardcoded genesis. -/
def noGenesis (chain : String) : String :=
  "cannot find a valid genesis for the " ++ chain ++ " network"

/-- The hardcoded genesis of a network, `[]byte(vochain.Genesis[chain].Genesis)`, once it is
checked that the network has one. -/
def hardcodedGenesis (chain : String) : Except String Bytes :=
  match env.hardcoded chain with
  | none => .error (noGenesis chain)
  | some g => .ok (bytesFrom g.genesis 0)

/-- The genesis part of `Vochain`: whether it calls `os.RemoveAll` on the data directory, and
the genesis it hands to `NewVochain`, or the error it returns. -/
def genesisBytes (cfg : VochainCfg) : Bool × Except String Bytes :=
  if 0 < cfg.genesis.utf8ByteSize then
    match env.stat cfg.genesis with
    | some e => if env.isNotExist e then (false, .error e) else (false, env.readFile cfg.genesis)
    | none => (false, env.readFile cfg.genesis)
  else
    let entry := (env.hardcoded cfg.chain).getD {}
    match env.readFile (cfg.dataDir ++ "/config/genesis.json") with
    | .ok localGenesis =>
        if localGenesis ≠ bytesFrom entry.genesis 0 then
          if entry.autoUpdateGenesis || cfg.dev then
            (true, match env.removeAll cfg.dataDir with
              | .error e => .error e
              | .ok () => hardcodedGenesis env cfg.chain)
          else (false, .ok localGenesis)
        else (false, .ok localGenesis)
    | .error e =>
        if env.isNotExist e then (false, hardcodedGenesis env cfg.chain) else (false, .error e)

/-- `Vochain`, up to `NewVochain`: whether it removed the data directory, and the configuration
and genesis it starts the node with, or the error it returns. `metrics` is whether a metrics
agent was given. -/
def vochain (cfg : VochainCfg) (metrics : Bool) : Bool × Except String (VochainCfg × Bytes) :=
  match publicAddr env cfg with
  | .error e => (false, .error e)
  | .ok addr =>
      let g := genesisBytes env cfg
      (g.1, g.2.map fun bytes =>
        ({ cfg with publicAddr := addr, tendermintMetrics := cfg.tendermintMetrics || metrics },
          bytes))

/-! ### The genesis a node starts with -/

/-- The hardcoded genesis, when there is one, is the entry's genesis as bytes. -/
theorem hardcodedGenesis_ok {chain : String} {bytes : Bytes}
    (h : hardcodedGenesis env chain = .ok bytes) :
  bytes = bytesFrom ((env.hardcoded chain).getD {}).genesis 0
  := by
  unfold hardcodedGenesis at h
  split at h
  · cases h
  · next g hnet =>
      cases h
      rw [hnet]
      rfl

/-- The genesis `Vochain` starts a node with is the one `genesisBytes` works out. -/
theorem genesisBytes_of_vochain {cfg cfg' : VochainCfg} {metrics : Bool} {bytes : Bytes}
    (h : (vochain env cfg metrics).2 = .ok (cfg', bytes)) :
  (genesisBytes env cfg).2 = .ok bytes
  := by
  unfold vochain at h
  cases haddr : publicAddr env cfg with
  | error e => simp [haddr] at h
  | ok addr =>
      cases hg : (genesisBytes env cfg).2 with
      | error e => simp [haddr, hg, Except.map] at h
      | ok b => simp_all [Except.map]

/-- On a network that auto-updates its genesis, or in development mode, a node started with no
genesis file named starts with the network's hardcoded genesis (the empty one, for a network with
none): never with a local genesis that differs from it. -/
theorem vochain_starts_hardcoded (cfg : VochainCfg) (metrics : Bool) {cfg' : VochainCfg}
    {bytes : Bytes} (h : (vochain env cfg metrics).2 = .ok (cfg', bytes))
    (hg : cfg.genesis.utf8ByteSize = 0)
    (hmode : (((env.hardcoded cfg.chain).getD {}).autoUpdateGenesis || cfg.dev) = true) :
  bytes = bytesFrom ((env.hardcoded cfg.chain).getD {}).genesis 0
  := by
  have hgen := genesisBytes_of_vochain env h
  unfold genesisBytes at hgen
  simp only [hg, lt_self_iff_false, if_false, hmode, if_true] at hgen
  split at hgen
  · -- a local genesis is read: it is kept only when it is the hardcoded one
      next localGenesis _ =>
        by_cases hd : localGenesis = bytesFrom ((env.hardcoded cfg.chain).getD {}).genesis 0
        · simp only [hd, ne_eq, not_true_eq_false, if_false, Except.ok.injEq] at hgen
          exact hgen.symm
        · simp only [ne_eq, hd, not_false_eq_true, if_true] at hgen
          split at hgen
          · cases hgen
          · exact hardcodedGenesis_ok env hgen
  · -- no local genesis
      split at hgen
      · exact hardcodedGenesis_ok env hgen
      · cases hgen

/-- A host whose public IP is `1.2.3.4`, whose data directory `/data` holds the local genesis
`x`, and which knows the hardcoded genesis `g` of the auto-updating network `main` only. -/
def sampleEnv : Env where
  publicIP := .ok "1.2.3.4"
  splitHostPort a :=
    if a = "0.0.0.0:26656" then .ok ("0.0.0.0", "26656") else .error "missing port in address"
  joinHostPort host port := host ++ ":" ++ port
  stat _ := none
  readFile path :=
    if path = "/data/config/genesis.json" then .ok [120] else .error "no such file or directory"
  removeAll _ := .ok ()
  isNotExist e := e = "no such file or directory"
  hardcoded chain := if chain = "main" then some { genesis := "g", autoUpdateGenesis := true }
    else none

/-- A node of the network `chain` in development mode, with no address and no genesis file
named. -/
def devCfg (chain : String) : VochainCfg :=
  { chain := chain, publicAddr := "", p2pListen := "0.0.0.0:26656", genesis := "",
    dataDir := "/data", dev := true, tendermintMetrics := false }

/-- The node of `main` replaces its local genesis `x` by the hardcoded `g`. -/
theorem vochain_starts_hardcoded_sample :
  (vochain sampleEnv (devCfg "main") false).2
      = .ok ({ devCfg "main" with publicAddr := "1.2.3.4:26656" }, [103]) ∧
    (devCfg "main").genesis.utf8ByteSize = 0 ∧
    (((sampleEnv.hardcoded (devCfg "main").chain).getD {}).autoUpdateGenesis
      || (devCfg "main").dev) = true ∧
    [103] = bytesFrom ((sampleEnv.hardcoded (devCfg "main").chain).getD {}).genesis 0
  := by
  have hv : (vochain sampleEnv (devCfg "main") false).2
      = .ok ({ devCfg "main" with publicAddr := "1.2.3.4:26656" }, [103]) := rfl
  exact ⟨hv, rfl, rfl, vochain_starts_hardcoded sampleEnv _ false hv rfl rfl⟩

end Service
