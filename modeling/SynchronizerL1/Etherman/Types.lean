import Mathlib.Data.List.Basic

/-!
The values the etherman package reads from L1 and the records it hands to the synchronizer.
-/

namespace SynchronizerL1.Etherman

set_option linter.dupNamespace false

/-- A Go `uint64`. -/
abbrev U64 := BitVec 64

/-- A Go `uint32`. -/
abbrev U32 := BitVec 32

/-- A 32-byte hash; the model only compares it. -/
abbrev Hash := Nat

/-- A 20-byte address; the model only compares it. -/
abbrev Address := Nat

/-- The administrative events that `processEvent` logs and drops. -/
inductive IgnoredSignature where
  | verifyBatchesTrustedAggregator | rollupManagerVerifyBatches | verifyBatches
  | setTrustedSequencerURL | setTrustedSequencer | initialized | initializedProxy
  | adminChanged | beaconUpgraded | upgraded | transferOwnership
  | emergencyStateActivated | emergencyStateDeactivated | consolidatePendingState
  | oldConsolidatePendingState | setTrustedAggregatorTimeout | setTrustedAggregator
  | setPendingStateTimeout | setMultiplierBatchFee | setVerifyBatchTimeTarget
  | setForceBatchTimeout | setForceBatchAddress | transferAdminRole | acceptAdminRole
  | proveNonDeterministicPendingState | overridePendingState | oldOverridePendingState
  | roleAdminChanged | roleGranted | roleRevoked | onSequenceBatches
  | obsoleteRollupType | addNewRollupType | setBatchFee
  deriving DecidableEq, Repr

/-- A log topic, read as the event signature hash it equals: a handled event, an ignored
one, or any other 32-byte value. -/
inductive Topic where
  | sequenceBatches
  | sequenceBatchesPreEtrog
  | updateGlobalExitRoot
  | updateL1InfoTree
  | forceBatch
  | initialSequenceBatches
  | updateEtrogSequence
  | oldVerifyBatchesTrustedAggregator
  | sequenceForceBatches
  | updateZkEVMVersion
  | updateRollup
  | addExistingRollup
  | createNewRollup
  | ignored (signature : IgnoredSignature)
  | unregistered (value : Hash)
  deriving DecidableEq, Repr

/-- The fields of `types.Log` that the package reads; `Data` is read by the bindings only. -/
structure Log where
  Topics : List Topic
  Data : List UInt8
  BlockNumber : U64
  TxHash : Hash
  TxIndex : Nat
  BlockHash : Hash
  deriving DecidableEq, Repr

/-- The header fields of a `types.Block` that the package reads. -/
structure FullBlock where
  NumberU64 : U64
  ParentHash : Hash
  Time : U64
  Hash : Hash
  deriving DecidableEq, Repr, Inhabited

/-- A `types.Transaction`; `Sender` is what signature recovery under the London signer gives. -/
structure Transaction where
  Data : List UInt8
  Nonce : U64
  Sender : Except String Address
  Hash : Hash

/-- The part of `core.Message` the handlers read. -/
structure Message where
  From : Address
  Nonce : U64
  deriving DecidableEq, Repr

/-- A Go runtime panic; it ends the program instead of returning an error. -/
inductive RuntimePanic where
  | indexOutOfRange
  | sliceBoundsOutOfRange
  | nilPointerDereference
  | typeAssertion
  deriving DecidableEq, Repr

/-- The error values of the package: one constructor per `fmt.Errorf` site, `rpc` for an error
passed on unchanged from the client, a binding or a decoder. -/
inductive Error where
  | rpc (message : String)
  | http (statusCode : Nat)
  /-- `"error: tx hash mismatch. want: %s have: %s"` -/
  | txHashMismatch (want actual : Hash)
  /-- `"error getting hashParent. BlockNumber: %d. Error: %w"` -/
  | gettingHashParent (blockNumber : Nat) (cause : Error)
  /-- `"error getting fullBlockInfo. BlockNumber: %d. Error: %w"` -/
  | gettingFullBlockInfo (blockNumber : Nat) (cause : Error)
  /-- `"error decoding the sequences: %v"` -/
  | decodingSequences (cause : Error)
  /-- `"error decoding the sequences: methodId %s unknown"` -/
  | methodIdUnknown (methodId : List UInt8)
  /-- `"error processing %s event"` -/
  | processingEvent (event : String)
  /-- The genesis block holds no fork event. -/
  | noForkIDEvent
  /-- The genesis block's fork event is not the initial one (`BatchNum: %d`). -/
  | notInitialForkID (batchNum : U64)
  deriving DecidableEq, Repr

/-- How a call of the package ends when it does not return: an error or a panic. -/
inductive Failure where
  | error (cause : Error)
  | panic (reason : RuntimePanic)
  deriving DecidableEq, Repr

/-- Modelled from the spec: pre-Etrog batch data (`oldpolygonzkevm.PolygonZkEVMBatchData`). -/
structure PolygonZkEVMBatchData where
  Transactions : List UInt8
  GlobalExitRoot : Hash
  Timestamp : U64
  MinForcedTimestamp : U64
  deriving DecidableEq, Repr

/-- Modelled from the spec: Etrog batch data (`polygonzkevm.PolygonRollupBaseEtrogBatchData`). -/
structure PolygonRollupBaseEtrogBatchData where
  Transactions : List UInt8
  ForcedGlobalExitRoot : Hash
  ForcedTimestamp : U64
  ForcedBlockHashL1 : Hash
  deriving DecidableEq, Repr

/-- Modelled from the spec: one sequenced batch record. -/
structure SequencedBatch where
  BatchNumber : U64
  SequencerAddr : Address
  TxHash : Hash
  Nonce : U64
  Coinbase : Address
  PolygonZkEVMBatchData : Option PolygonZkEVMBatchData
  PolygonRollupBaseEtrogBatchData : Option PolygonRollupBaseEtrogBatchData
  deriving DecidableEq, Repr

/-- Modelled from the spec: one batch of a `sequenceForceBatches` call. -/
structure SequencedForceBatch where
  BatchNumber : U64
  Coinbase : Address
  TxHash : Hash
  Timestamp : U64
  Nonce : U64
  PolygonRollupBaseEtrogBatchData : PolygonRollupBaseEtrogBatchData
  deriving DecidableEq, Repr

/-- Modelled from the spec: a forced batch. -/
structure ForcedBatch where
  BlockNumber : U64
  ForcedBatchNumber : U64
  Sequencer : Address
  GlobalExitRoot : Hash
  RawTxsData : List UInt8
  ForcedAt : U64
  deriving DecidableEq, Repr

/-- Modelled from the spec: a global exit root update, also used for the L1 info tree. -/
structure GlobalExitRoot where
  BlockNumber : U64
  MainnetExitRoot : Hash
  RollupExitRoot : Hash
  GlobalExitRoot : Hash
  Timestamp : U64
  PreviousBlockHash : Hash
  deriving DecidableEq, Repr

/-- Modelled from the spec: a verified batch. -/
structure VerifiedBatch where
  BlockNumber : U64
  BatchNumber : U64
  Aggregator : Address
  TxHash : Hash
  StateRoot : Hash
  deriving DecidableEq, Repr

/-- Modelled from the spec: a fork id activated after `BatchNumber`. -/
structure ForkID where
  BatchNumber : U64
  ForkID : U64
  Version : String
  deriving DecidableEq, Repr

/-- Modelled from the spec: the one Etrog sequence update of a block. -/
structure UpdateEtrogSequence where
  BatchNumber : U64
  SequencerAddr : Address
  TxHash : Hash
  Nonce : U64
  PolygonRollupBaseEtrogBatchData : PolygonRollupBaseEtrogBatchData
  deriving DecidableEq, Repr

/-- Modelled from the spec: an L1 block with the events found in it, one array per kind and
one optional Etrog sequence update. -/
structure Block where
  BlockNumber : U64
  BlockHash : Hash
  ParentHash : Hash
  ReceivedAt : U64
  GlobalExitRoots : List GlobalExitRoot := []
  ForcedBatches : List ForcedBatch := []
  SequencedBatches : List (List SequencedBatch) := []
  UpdateEtrogSequence : Option UpdateEtrogSequence := none
  VerifiedBatches : List VerifiedBatch := []
  SequencedForceBatches : List (List SequencedForceBatch) := []
  ForkIDs : List ForkID := []
  L1InfoTree : List GlobalExitRoot := []
  deriving DecidableEq, Repr, Inhabited

/-- The `EventOrder` names. -/
inductive EventOrder where
  | GlobalExitRootsOrder
  | L1InfoTreeOrder
  | SequenceBatchesOrder
  | UpdateEtrogSequenceOrder
  | ForcedBatchesOrder
  | TrustedVerifyBatchOrder
  | VerifyBatchOrder
  | SequenceForceBatchesOrder
  | ForkIDsOrder
  | InitialSequenceBatchesOrder
  deriving DecidableEq, Repr

/-- An entry of `blocksOrder`: the kind of an event and its index in the block's array. -/
structure Order where
  Name : EventOrder
  Pos : Nat
  deriving DecidableEq, Repr

/-- The two accumulators `readEvents` threads through the handlers. -/
structure Accumulators where
  blocks : List Block
  blocksOrder : Hash → List Order

/-- The accumulators `readEvents` starts from. -/
def Accumulators.empty : Accumulators := ⟨[], fun _ => []⟩

/-- A block is at the head of `blocks` when the last block has the given hash and number. -/
def isheadBlockInArray (blocks : List Block) (blockHash : Hash) (blockNumber : U64) : Bool :=
  match blocks.getLast? with
  | some head => head.BlockHash == blockHash && head.BlockNumber == blockNumber
  | none => false

/-- The first topic of a log; indexing an empty topic list panics. -/
def Log.topic0 (vLog : Log) : Except Failure Topic :=
  match vLog.Topics with
  | topic :: _ => .ok topic
  | [] => .error (.panic .indexOutOfRange)

/-- The block a handler opens for a log: number and hash from the log, the rest from L1. -/
def prepareBlock (vLog : Log) (fullBlock : FullBlock) : Block where
  BlockNumber := vLog.BlockNumber
  BlockHash := vLog.BlockHash
  ParentHash := fullBlock.ParentHash
  ReceivedAt := fullBlock.Time

end SynchronizerL1.Etherman
