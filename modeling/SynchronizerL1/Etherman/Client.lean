import SynchronizerL1.Etherman.Types

/-!
The client the handlers run against, with the L1 client, the contract bindings, the decoders
and the configuration as arbitrary functions.
-/

namespace SynchronizerL1.Etherman

/-- `polygonzkevm.PolygonzkevmSequenceBatches`. -/
structure PolygonzkevmSequenceBatches where
  NumBatch : U64
  L1InfoRoot : Hash

/-- `oldpolygonzkevm.OldpolygonzkevmSequenceBatches`. -/
structure OldpolygonzkevmSequenceBatches where
  NumBatch : U64

/-- The payload of `UpdateGlobalExitRoot` and of `UpdateL1InfoTree`. -/
structure ExitRoots where
  MainnetExitRoot : Hash
  RollupExitRoot : Hash

/-- `polygonzkevm.PolygonzkevmForceBatch`. -/
structure PolygonzkevmForceBatch where
  ForceBatchNum : U64
  LastGlobalExitRoot : Hash
  Sequencer : Address
  Transactions : List UInt8

/-- `polygonzkevm.PolygonzkevmInitialSequenceBatches`. -/
structure PolygonzkevmInitialSequenceBatches where
  Transactions : List UInt8
  LastGlobalExitRoot : Hash
  Sequencer : Address

/-- `etrogpolygonzkevm.EtrogpolygonzkevmUpdateEtrogSequence`. -/
structure EtrogpolygonzkevmUpdateEtrogSequence where
  NumBatch : U64
  Transactions : List UInt8
  LastGlobalExitRoot : Hash
  Sequencer : Address

/-- `oldpolygonzkevm.OldpolygonzkevmVerifyBatchesTrustedAggregator`. -/
structure OldpolygonzkevmVerifyBatchesTrustedAggregator where
  NumBatch : U64
  StateRoot : Hash
  Aggregator : Address

/-- `polygonzkevm.PolygonzkevmSequenceForceBatches`. -/
structure PolygonzkevmSequenceForceBatches where
  NumBatch : U64

/-- `oldpolygonzkevm.OldpolygonzkevmUpdateZkEVMVersion`; its zero value is the default. -/
structure OldpolygonzkevmUpdateZkEVMVersion where
  NumBatch : U64 := 0
  ForkID : U64 := 0
  Version : String := ""
  deriving DecidableEq, Repr

/-- `polygonrollupmanager.PolygonrollupmanagerUpdateRollup`. -/
structure PolygonrollupmanagerUpdateRollup where
  RollupID : U32
  NewRollupTypeID : U32
  LastVerifiedBatchBeforeUpgrade : U64

/-- `polygonrollupmanager.PolygonrollupmanagerAddExistingRollup`. -/
structure PolygonrollupmanagerAddExistingRollup where
  RollupID : U32
  ForkID : U64
  LastVerifiedBatchBeforeUpgrade : U64

/-- `polygonrollupmanager.PolygonrollupmanagerCreateNewRollup`. -/
structure PolygonrollupmanagerCreateNewRollup where
  RollupID : U32
  RollupTypeID : U32

/-- The part of the rollup manager's `rollupTypeMap` answer the package reads. -/
structure RollupType where
  ForkID : U64

/-- The old zkEVM contract binding. -/
structure Oldpolygonzkevm where
  ParseUpdateZkEVMVersion : Log → Except Error OldpolygonzkevmUpdateZkEVMVersion
  ParseSequenceBatches : Log → Except Error OldpolygonzkevmSequenceBatches
  ParseVerifyBatchesTrustedAggregator : Log → Except Error OldpolygonzkevmVerifyBatchesTrustedAggregator

/-- The Etrog zkEVM contract binding. -/
structure Etrogpolygonzkevm where
  ParseUpdateEtrogSequence : Log → Except Error EtrogpolygonzkevmUpdateEtrogSequence

/-- The zkEVM contract binding. -/
structure Polygonzkevm where
  ParseSequenceBatches : Log → Except Error PolygonzkevmSequenceBatches
  ParseForceBatch : Log → Except Error PolygonzkevmForceBatch
  ParseInitialSequenceBatches : Log → Except Error PolygonzkevmInitialSequenceBatches
  ParseSequenceForceBatches : Log → Except Error PolygonzkevmSequenceForceBatches

/-- The rollup manager binding, with its `rollupTypeMap` view call. -/
structure Polygonrollupmanager where
  ParseUpdateRollup : Log → Except Error PolygonrollupmanagerUpdateRollup
  ParseAddExistingRollup : Log → Except Error PolygonrollupmanagerAddExistingRollup
  ParseCreateNewRollup : Log → Except Error PolygonrollupmanagerCreateNewRollup
  RollupTypeMap : U32 → Except Error RollupType

/-- The global exit root manager binding. -/
structure Polygonzkevmglobalexitroot where
  ParseUpdateL1InfoTree : Log → Except Error ExitRoots

/-- The old global exit root manager binding. -/
structure Oldpolygonzkevmglobalexitroot where
  ParseUpdateGlobalExitRoot : Log → Except Error ExitRoots

/-- `ethereum.FilterQuery`. -/
structure FilterQuery where
  FromBlock : U64
  ToBlock : Option U64
  Addresses : List Address
  Topics : List (List Topic)

/-- The JSON-RPC calls the package makes. -/
structure EthereumClient where
  FilterLogs : FilterQuery → Except Error (List Log)
  BlockByHash : Hash → Except Error FullBlock
  TransactionInBlock : Hash → Nat → Except Error Transaction

/-- A value `Method.Inputs.Unpack` returns, as far as the package inspects it. -/
inductive AbiValue (Item : Type) where
  | address (value : Address)
  | bytes (value : List UInt8)
  | batches (items : List Item)
  | other

/-- An ABI method found by its selector. -/
structure Method (Item : Type) where
  Unpack : List UInt8 → Except Error (List (AbiValue Item))

/-- A parsed contract ABI; `Item` is the batch struct its sequencing method takes. -/
structure Abi (Item : Type) where
  MethodById : List UInt8 → Except Error (Method Item)

/-- A calldata decoder chosen by the 4-byte method selector; its code is outside the package. -/
structure SequenceBatchesDecoder where
  MatchMethodId : List UInt8 → Bool
  DecodeSequenceBatches :
    List UInt8 → U64 → Address → Hash → U64 → Hash → Except Error (List SequencedBatch)

/-- The configuration fields the package reads. -/
structure Config where
  ForkIDChunkSize : U64
  PararellBlockRequest : Bool

/-- `etherman.Client`, with the package constants its methods use: the two parsed ABIs and
the Keccak-256 of two concatenated hashes that `hash` computes. -/
structure Client where
  EthClient : EthereumClient
  OldZkEVM : Oldpolygonzkevm
  EtrogZKEVM : Etrogpolygonzkevm
  ZkEVM : Polygonzkevm
  RollupManager : Polygonrollupmanager
  GlobalExitRootManager : Polygonzkevmglobalexitroot
  OldGlobalExitRootManager : Oldpolygonzkevmglobalexitroot
  SCAddresses : List Address
  SequenceBatchesDecoders : List SequenceBatchesDecoder
  RollupID : U32
  cfg : Config
  PolygonzkevmABI : Abi PolygonRollupBaseEtrogBatchData
  OldpolygonzkevmABI : Abi PolygonZkEVMBatchData
  hash : Hash → Hash → Hash

/-- An error of a call, as a failure of the caller. -/
def liftError {α : Type} : Except Error α → Except Failure α :=
  Except.mapError Failure.error

/-- `fmt.Errorf` wrapping: errors are wrapped, panics pass through. -/
def wrapError {α : Type} (wrap : Error → Error) : Except Failure α → Except Failure α
  | .error (.error cause) => .error (.error (wrap cause))
  | result => result

/-- `core.TransactionToMessage` with the London signer. -/
def transactionToMessage (tx : Transaction) : Except Failure Message :=
  match tx.Sender with
  | .ok sender => .ok ⟨sender, tx.Nonce⟩
  | .error message => .error (.error (.rpc message))

/-- The first `n` bytes of a slice; `txData[:4]` panics when the slice is shorter. -/
def sliceTo (data : List UInt8) (n : Nat) : Except Failure (List UInt8) :=
  if n ≤ data.length then .ok (data.take n) else .error (.panic .sliceBoundsOutOfRange)

/-- `data[i]` on the unpacked arguments. -/
def indexAbi {Item : Type} (data : List (AbiValue Item)) (i : Nat) : Except Failure (AbiValue Item) :=
  match data[i]? with
  | some value => .ok value
  | none => .error (.panic .indexOutOfRange)

/-- The JSON round trip the decoders make from `data[0]` into a typed slice. -/
def AbiValue.unmarshal {Item : Type} : AbiValue Item → Except Failure (List Item)
  | .batches items => .ok items
  | _ => .error (.error (.rpc "json: cannot unmarshal"))

@[simp] theorem liftError_ok {α : Type} (value : α) : liftError (.ok value : Except Error α) = .ok value := rfl

@[simp] theorem liftError_error {α : Type} (cause : Error) :
    liftError (.error cause : Except Error α) = .error (.error cause) := rfl

@[simp] theorem wrapError_ok {α : Type} (wrap : Error → Error) (value : α) :
    wrapError wrap (.ok value) = .ok value := rfl

theorem sliceTo_of_le {data : List UInt8} {n : Nat} (long : n ≤ data.length) :
    sliceTo data n = .ok (data.take n) := if_pos long

theorem sliceTo_of_lt {data : List UInt8} {n : Nat} (short : data.length < n) :
    sliceTo data n = .error (.panic .sliceBoundsOutOfRange) := if_neg (Nat.not_le.mpr short)

@[simp] theorem pure_eq_ok {ε α : Type} (value : α) : (pure value : Except ε α) = .ok value := rfl

@[simp] theorem throw_eq_error {ε α : Type} (cause : ε) : (throw cause : Except ε α) = .error cause := rfl

@[simp] theorem ok_bind {ε α β : Type} (value : α) (next : α → Except ε β) :
    (Except.ok value >>= next) = next value := rfl

@[simp] theorem error_bind {ε α β : Type} (cause : ε) (next : α → Except ε β) :
    (Except.error cause >>= next) = .error cause := rfl

/-- A `do` step in `Except` succeeds exactly when both of its parts do. -/
@[simp] theorem bind_eq_ok {ε α β : Type} {value : Except ε α} {next : α → Except ε β} {result : β} :
    (value >>= next) = .ok result ↔ ∃ input, value = .ok input ∧ next input = .ok result := by
  cases value <;> simp [bind, Except.bind]

@[simp] theorem map_eq_ok {ε α β : Type} {value : Except ε α} {f : α → β} {result : β} :
    (f <$> value) = .ok result ↔ ∃ input, value = .ok input ∧ f input = result := by
  cases value <;> simp [Functor.map, Except.map]

/-- A `do` step in `Except` fails where its first part does, or where the rest does after it. -/
theorem bind_eq_error {ε α β : Type} {value : Except ε α} {next : α → Except ε β} {cause : ε} :
    (value >>= next) = .error cause ↔ value = .error cause ∨ ∃ input, value = .ok input ∧ next input = .error cause := by
  cases value <;> simp [bind, Except.bind]

end SynchronizerL1.Etherman
