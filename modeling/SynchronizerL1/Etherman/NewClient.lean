import SynchronizerL1.Etherman.Client
import Mathlib.Algebra.Group.Nat.Basic

/-!
`NewClient`, and the parts of `etherman.Client` the read path does not read: the chain id check,
the contract addresses, the gas price providers and the signing authorizations.
-/

namespace SynchronizerL1.Etherman

/-- The errors of `NewClient` and of the account, gas price and chain queries: the package's
sentinel errors, the texts of those functions' own `errors.New` and `fmt.Errorf` calls, and an error
passed on from the node, a binding, the file system or the key store. -/
inductive ClientError where
  /-- `ErrNotFound`: "not found" -/
  | ErrNotFound
  /-- `ErrPrivateKeyNotFound`: "can't find sender private key to sign tx" -/
  | ErrPrivateKeyNotFound
  /-- "chainID from %s: %s does not match the expected chainID: %d" -/
  | chainIDMismatch (l1URL : String) (reported : Nat) (expected : U64)
  /-- "failed to get the suggested gas price" -/
  | suggestedGasPrice
  /-- "error: chainID received is 0!!" -/
  | chainIDZero
  /-- An error passed on unchanged. -/
  | call (cause : Error)
  deriving DecidableEq, Repr

/-- A `bind.SignerFn`: signs a transaction for an address. -/
abbrev SignerFn := Address → Transaction → Except Error Transaction

/-- The fields of `bind.TransactOpts` the package reads; the zero value `bind.TransactOpts{}` has
the zero address and a nil signer. -/
structure TransactOpts where
  From : Address := 0
  Signer : Option SignerFn := none

/-- An `ethereum.GasPricer`, by the price it suggests or its error. -/
structure GasPricer where
  SuggestGasPrice : Except Error Int

/-- `externalGasProviders`; its zero value has no provider. -/
structure externalGasProviders where
  MultiGasProvider : Bool := false
  Providers : List GasPricer := []

/-- `cfg.Contracts`: the addresses of the three contracts the package reads. -/
structure ContractsConfig where
  ZkEVMAddr : Address
  RollupManagerAddr : Address
  GlobalExitRootManagerAddr : Address

/-- `etherman.Config`: the read path's fields and those `NewClient` reads. -/
structure ClientConfig extends Config where
  L1URL : String
  L1ChainID : U64
  Contracts : ContractsConfig
  /-- `cfg.Validium.Enabled` -/
  ValidiumEnabled : Bool

/-- `EthermanValidium`, by the data availability client its decoders are built from. -/
structure EthermanValidium where
  DataAvailabilityClient : Nat

/-- `etherman.Client` whole: the read path's `Client`, the configuration's chain id and contract
addresses (`cfg.L1ChainID`, `cfg.Contracts`), the gas price providers, the authorizations by
address, and the validium extension. -/
structure FullClient extends Client where
  L1ChainID : U64
  Contracts : ContractsConfig
  GasProviders : externalGasProviders
  auth : Address → Option TransactOpts
  validium : Option EthermanValidium

/-- The L1 node `ethclient.Dial` connects to: the calls of the read path, the chain id it reports,
and the `rollupAddressToID` view of the rollup manager contract at an address. -/
structure Node where
  EthClient : EthereumClient
  ChainID : Except Error Nat
  RollupAddressToID : Address → Address → Except Error U32

/-- What `NewClient` builds on, each step of which may fail: `ethclient.Dial`, the binding
constructors, the decoder constructors and the validium extension; and the package's parsed ABIs
and hash, which the read path's client carries. -/
structure Backend where
  Dial : String → Except Error Node
  NewPolygonzkevm : Address → Node → Except Error Polygonzkevm
  NewEtrogpolygonzkevm : Address → Node → Except Error Etrogpolygonzkevm
  NewOldpolygonzkevm : Address → Node → Except Error Oldpolygonzkevm
  NewPolygonrollupmanager : Address → Node → Except Error Polygonrollupmanager
  NewPolygonzkevmglobalexitroot : Address → Node → Except Error Polygonzkevmglobalexitroot
  NewOldpolygonzkevmglobalexitroot : Address → Node → Except Error Oldpolygonzkevmglobalexitroot
  NewDecodeSequenceBatchesEtrog : Except Error SequenceBatchesDecoder
  NewDecodeSequenceBatchesElderberry : Except Error SequenceBatchesDecoder
  NewEthermanValidium : ClientConfig → Node → Except Error EthermanValidium
  NewDecodeSequenceBatchesEtrogValidium : Nat → Except Error SequenceBatchesDecoder
  NewDecodeSequenceBatchesElderberryValidium : Nat → Except Error SequenceBatchesDecoder
  PolygonzkevmABI : Abi PolygonRollupBaseEtrogBatchData
  OldpolygonzkevmABI : Abi PolygonZkEVMBatchData
  hash : Hash → Hash → Hash

@[simp] theorem mapError_eq_ok {ε ε' α : Type} {value : Except ε α} {f : ε → ε'} {result : α} :
    value.mapError f = .ok result ↔ value = .ok result := by
  cases value <;> simp [Except.mapError]

/-- The chain id block of `NewClient`: a configured id must be the node's, compared with
`big.NewInt(int64(cfg.L1ChainID))`; without one the node's id is taken as `Uint64()` reads it. -/
def checkL1ChainID (cfg : ClientConfig) (l1ChainID : Nat) : Except ClientError U64 :=
  if cfg.L1ChainID ≠ 0 then
    if (l1ChainID : Int) ≠ cfg.L1ChainID.toInt then .error (.chainIDMismatch cfg.L1URL l1ChainID cfg.L1ChainID)
    else .ok cfg.L1ChainID
  else .ok (BitVec.ofNat 64 l1ChainID)

/-- `NewClient`. With validium enabled `NewEthermanValidium` runs twice, as in the source: once for
the decoders and once more for the client's field. -/
def newClient (backend : Backend) (cfg : ClientConfig) : Except ClientError FullClient := do
  let ethClient ← (backend.Dial cfg.L1URL).mapError .call
  let l1ChainID ← ethClient.ChainID.mapError .call
  let L1ChainID ← checkL1ChainID cfg l1ChainID
  let zkevm ← (backend.NewPolygonzkevm cfg.Contracts.ZkEVMAddr ethClient).mapError .call
  let etrogZkevm ← (backend.NewEtrogpolygonzkevm cfg.Contracts.RollupManagerAddr ethClient).mapError .call
  let oldZkevm ← (backend.NewOldpolygonzkevm cfg.Contracts.RollupManagerAddr ethClient).mapError .call
  let rollupManager ← (backend.NewPolygonrollupmanager cfg.Contracts.RollupManagerAddr ethClient).mapError .call
  let globalExitRoot ←
    (backend.NewPolygonzkevmglobalexitroot cfg.Contracts.GlobalExitRootManagerAddr ethClient).mapError .call
  let oldGlobalExitRoot ←
    (backend.NewOldpolygonzkevmglobalexitroot cfg.Contracts.GlobalExitRootManagerAddr ethClient).mapError .call
  let scAddresses := [cfg.Contracts.ZkEVMAddr, cfg.Contracts.RollupManagerAddr, cfg.Contracts.GlobalExitRootManagerAddr]
  let rollupID ← (ethClient.RollupAddressToID cfg.Contracts.RollupManagerAddr cfg.Contracts.ZkEVMAddr).mapError .call
  let decodeEtrog ← backend.NewDecodeSequenceBatchesEtrog.mapError .call
  let decodeElderberry ← backend.NewDecodeSequenceBatchesElderberry.mapError .call
  let (batchDecoders, validium) ←
    if cfg.ValidiumEnabled then do
      let validium ← (backend.NewEthermanValidium cfg ethClient).mapError .call
      let decodeEtrogValidium ←
        (backend.NewDecodeSequenceBatchesEtrogValidium validium.DataAvailabilityClient).mapError .call
      let decodeElderberryValidium ←
        (backend.NewDecodeSequenceBatchesElderberryValidium validium.DataAvailabilityClient).mapError .call
      pure ([decodeEtrog, decodeElderberry, decodeEtrogValidium, decodeElderberryValidium], some validium)
    else pure ([decodeEtrog, decodeElderberry], none)
  let client : FullClient :=
    { EthClient := ethClient.EthClient, ZkEVM := zkevm, EtrogZKEVM := etrogZkevm, OldZkEVM := oldZkevm,
      RollupManager := rollupManager, GlobalExitRootManager := globalExitRoot,
      OldGlobalExitRootManager := oldGlobalExitRoot, SCAddresses := scAddresses, RollupID := rollupID,
      SequenceBatchesDecoders := batchDecoders, cfg := cfg.toConfig, L1ChainID := L1ChainID,
      Contracts := cfg.Contracts, GasProviders := {}, auth := fun _ => none, validium := validium,
      PolygonzkevmABI := backend.PolygonzkevmABI, OldpolygonzkevmABI := backend.OldpolygonzkevmABI,
      hash := backend.hash }
  if cfg.ValidiumEnabled then
    let validium ← (backend.NewEthermanValidium cfg ethClient).mapError .call
    pure { client with validium := some validium }
  else pure client

/-- The check passes exactly when the configured chain id is zero, or is the node's and below
`2^63` (`int64(cfg.L1ChainID)` is negative from there on); it then gives the node's id modulo
`2^64`. -/
theorem checkL1ChainID_eq_ok {cfg : ClientConfig} {l1ChainID : Nat} {chainID : U64} :
    checkL1ChainID cfg l1ChainID = .ok chainID ↔
      chainID = BitVec.ofNat 64 l1ChainID ∧
        (cfg.L1ChainID ≠ 0 → cfg.L1ChainID.toNat = l1ChainID ∧ l1ChainID < 2 ^ 63) := by
  unfold checkL1ChainID
  by_cases configured : cfg.L1ChainID = 0
  · simp [configured, eq_comm]
  · have bounded := cfg.L1ChainID.isLt
    have chainBounded := chainID.isLt
    have nonzero : cfg.L1ChainID.toNat ≠ 0 := fun zero => configured (BitVec.eq_of_toNat_eq zero)
    rw [if_pos configured, BitVec.toInt_eq_toNat_cond]
    split_ifs <;> simp [BitVec.toNat_eq, configured] <;> omega

/-- What a client `NewClient` returns is made of: the node it dialed, the checked chain id, the
configured addresses, the rollup id the rollup manager reports for the zkEVM address, and no gas
price provider and no authorization. -/
theorem newClient_ok {backend : Backend} {cfg : ClientConfig} {etherMan : FullClient}
    (ok : newClient backend cfg = .ok etherMan) :
    ∃ node l1ChainID, backend.Dial cfg.L1URL = .ok node ∧ node.ChainID = .ok l1ChainID ∧
      checkL1ChainID cfg l1ChainID = .ok etherMan.L1ChainID ∧
      node.RollupAddressToID cfg.Contracts.RollupManagerAddr cfg.Contracts.ZkEVMAddr = .ok etherMan.RollupID ∧
      etherMan.EthClient = node.EthClient ∧ etherMan.cfg = cfg.toConfig ∧ etherMan.Contracts = cfg.Contracts ∧
      etherMan.SCAddresses =
        [cfg.Contracts.ZkEVMAddr, cfg.Contracts.RollupManagerAddr, cfg.Contracts.GlobalExitRootManagerAddr] ∧
      etherMan.GasProviders = {} ∧ etherMan.auth = fun _ => none := by
  simp only [newClient, bind_eq_ok, mapError_eq_ok] at ok
  obtain ⟨node, dialed, l1ChainID, reported, chainID, checked, _, _, _, _, _, _, _, _, _, _, _, _, rollupID,
    answered, _, _, _, _, built⟩ := ok
  refine ⟨node, l1ChainID, dialed, reported, ?_⟩
  split at built
  · simp only [bind_eq_ok, mapError_eq_ok, pure_eq_ok, ok_bind, if_pos ‹_›, Except.ok.injEq] at built
    obtain ⟨-, -, -, -, -, -, -, -, rfl⟩ := built
    exact ⟨checked, answered, rfl, rfl, rfl, rfl, rfl, rfl⟩
  · simp only [pure_eq_ok, ok_bind, if_neg ‹_›, Except.ok.injEq] at built
    subst built
    exact ⟨checked, answered, rfl, rfl, rfl, rfl, rfl, rfl⟩

/-- An error for every call of the sample backend's bindings. -/
def unavailable {α : Type} : Except Error α := .error (.rpc "unavailable")

/-- A decoder that matches no method. -/
def noDecoder : SequenceBatchesDecoder := ⟨fun _ => false, fun _ _ _ _ _ _ => unavailable⟩

/-- A backend whose node reports chain 1 and rollup id 7, and whose bindings and decoders are built
without error and answer every call with one. -/
def sampleBackend : Backend where
  Dial _ := .ok ⟨⟨fun _ => unavailable, fun _ => unavailable, fun _ _ => unavailable⟩, .ok 1, fun _ _ => .ok 7⟩
  NewPolygonzkevm _ _ := .ok ⟨fun _ => unavailable, fun _ => unavailable, fun _ => unavailable, fun _ => unavailable⟩
  NewEtrogpolygonzkevm _ _ := .ok ⟨fun _ => unavailable⟩
  NewOldpolygonzkevm _ _ := .ok ⟨fun _ => unavailable, fun _ => unavailable, fun _ => unavailable⟩
  NewPolygonrollupmanager _ _ :=
    .ok ⟨fun _ => unavailable, fun _ => unavailable, fun _ => unavailable, fun _ => unavailable⟩
  NewPolygonzkevmglobalexitroot _ _ := .ok ⟨fun _ => unavailable⟩
  NewOldpolygonzkevmglobalexitroot _ _ := .ok ⟨fun _ => unavailable⟩
  NewDecodeSequenceBatchesEtrog := .ok noDecoder
  NewDecodeSequenceBatchesElderberry := .ok noDecoder
  NewEthermanValidium _ _ := .ok ⟨0⟩
  NewDecodeSequenceBatchesEtrogValidium _ := .ok noDecoder
  NewDecodeSequenceBatchesElderberryValidium _ := .ok noDecoder
  PolygonzkevmABI := ⟨fun _ => unavailable⟩
  OldpolygonzkevmABI := ⟨fun _ => unavailable⟩
  hash _ _ := 0

/-- A configuration that expects chain 1, with validium off. -/
def sampleConfig : ClientConfig where
  ForkIDChunkSize := 100
  PararellBlockRequest := false
  L1URL := "l1"
  L1ChainID := 1
  Contracts := ⟨1, 2, 3⟩
  ValidiumEnabled := false

namespace FullClient

/-- `GetRollupID`: the rollup id as a Go `uint`, 64 bits wide. -/
def getRollupID (etherMan : FullClient) : U64 := etherMan.RollupID.setWidth 64

/-- `GetL1ChainID`. -/
def getL1ChainID (etherMan : FullClient) : U64 := etherMan.L1ChainID

end FullClient

end SynchronizerL1.Etherman

namespace SynchronizerL1.Synchronizer

open SynchronizerL1.Etherman

/-- `entities.StorageContentsBoundData`: what binds the database to one rollup on one L1. -/
structure StorageContentsBoundData where
  RollupID : U64
  L1ChainID : U64
  deriving DecidableEq, Repr

/-- `StorageCompatibilityCheckerImpl.getDataFromEtherman`, over the etherman client as its
`EthermanChainQuerier`. -/
def getDataFromEtherman (etherman : FullClient) : StorageContentsBoundData :=
  { RollupID := etherman.getRollupID, L1ChainID := etherman.getL1ChainID }

/-- The storage check of a client `NewClient` returns binds the database to the rollup id the
rollup manager reports for the configured zkEVM and to the chain id the node reports, modulo
`2^64`. `NewClient` comes back only when the configured chain id is zero, or is the node's and
below `2^63`: from `2^63` on, `int64(cfg.L1ChainID)` is negative and no node id matches it. -/
theorem getDataFromEtherman_newClient {backend : Backend} {cfg : ClientConfig} {etherman : FullClient}
    (ok : newClient backend cfg = .ok etherman) :
    ∃ node l1ChainID rollupID, backend.Dial cfg.L1URL = .ok node ∧ node.ChainID = .ok l1ChainID ∧
      node.RollupAddressToID cfg.Contracts.RollupManagerAddr cfg.Contracts.ZkEVMAddr = .ok rollupID ∧
      getDataFromEtherman etherman = ⟨rollupID.setWidth 64, BitVec.ofNat 64 l1ChainID⟩ ∧
      (cfg.L1ChainID ≠ 0 → cfg.L1ChainID.toNat = l1ChainID ∧ l1ChainID < 2 ^ 63) := by
  obtain ⟨node, l1ChainID, dialed, reported, checked, answered, -⟩ := newClient_ok ok
  obtain ⟨chainID, configured⟩ := checkL1ChainID_eq_ok.mp checked
  refine ⟨node, l1ChainID, etherman.RollupID, dialed, reported, answered, ?_, configured⟩
  rw [getDataFromEtherman, FullClient.getL1ChainID, chainID]
  rfl

/-- The sample node of chain 1 under a configuration that expects chain 1. -/
theorem getDataFromEtherman_sample :
    ∃ etherman, newClient sampleBackend sampleConfig = .ok etherman ∧
      ∃ node l1ChainID rollupID, sampleBackend.Dial sampleConfig.L1URL = .ok node ∧
        node.ChainID = .ok l1ChainID ∧
        node.RollupAddressToID sampleConfig.Contracts.RollupManagerAddr sampleConfig.Contracts.ZkEVMAddr =
          .ok rollupID ∧
        getDataFromEtherman etherman = ⟨rollupID.setWidth 64, BitVec.ofNat 64 l1ChainID⟩ ∧
        (sampleConfig.L1ChainID ≠ 0 → sampleConfig.L1ChainID.toNat = l1ChainID ∧ l1ChainID < 2 ^ 63) :=
  ⟨_, rfl, getDataFromEtherman_newClient rfl⟩

end SynchronizerL1.Synchronizer
