import SynchronizerL1.Etherman.Decode

/-!
The event processor of `etherman.go`: one handler per topic, each building a record and adding
it to the block bucket and to `blocksOrder`.
-/

namespace SynchronizerL1.Etherman

/-- The record one log adds to its block. -/
inductive Entry where
  | sequenceBatches (sequences : List SequencedBatch)
  | initialSequenceBatches (sequences : List SequencedBatch)
  | sequenceForceBatches (batches : List SequencedForceBatch)
  | forcedBatch (batch : ForcedBatch)
  | globalExitRoot (root : GlobalExitRoot)
  | l1InfoTree (root : GlobalExitRoot)
  | verifiedBatch (batch : VerifiedBatch) (orderName : EventOrder)
  | forkID (fork : ForkID)
  | updateEtrogSequence (sequence : UpdateEtrogSequence)
  deriving DecidableEq, Repr

/-- The `EventOrder` a handler records for the entry. -/
def Entry.name : Entry → EventOrder
  | .sequenceBatches _ => .SequenceBatchesOrder
  | .initialSequenceBatches _ => .InitialSequenceBatchesOrder
  | .sequenceForceBatches _ => .SequenceForceBatchesOrder
  | .forcedBatch _ => .ForcedBatchesOrder
  | .globalExitRoot _ => .GlobalExitRootsOrder
  | .l1InfoTree _ => .L1InfoTreeOrder
  | .verifiedBatch _ orderName => orderName
  | .forkID _ => .ForkIDsOrder
  | .updateEtrogSequence _ => .UpdateEtrogSequenceOrder

/-- The handler's `block.X = append(block.X, record)`; the Etrog sequence update overwrites the
block's single slot. -/
def Block.push (block : Block) : Entry → Block
  | .sequenceBatches sequences =>
      { block with SequencedBatches := block.SequencedBatches ++ [sequences] }
  | .initialSequenceBatches sequences =>
      { block with SequencedBatches := block.SequencedBatches ++ [sequences] }
  | .sequenceForceBatches batches =>
      { block with SequencedForceBatches := block.SequencedForceBatches ++ [batches] }
  | .forcedBatch batch => { block with ForcedBatches := block.ForcedBatches ++ [batch] }
  | .globalExitRoot root => { block with GlobalExitRoots := block.GlobalExitRoots ++ [root] }
  | .l1InfoTree root => { block with L1InfoTree := block.L1InfoTree ++ [root] }
  | .verifiedBatch batch _ => { block with VerifiedBatches := block.VerifiedBatches ++ [batch] }
  | .forkID fork => { block with ForkIDs := block.ForkIDs ++ [fork] }
  | .updateEtrogSequence sequence => { block with UpdateEtrogSequence := some sequence }

/-- The handler's `Pos`: `len(block.X) - 1` after the append, and 0 for the Etrog slot. -/
def Block.position (block : Block) : Entry → Nat
  | .sequenceBatches _ | .initialSequenceBatches _ => block.SequencedBatches.length - 1
  | .sequenceForceBatches _ => block.SequencedForceBatches.length - 1
  | .forcedBatch _ => block.ForcedBatches.length - 1
  | .globalExitRoot _ => block.GlobalExitRoots.length - 1
  | .l1InfoTree _ => block.L1InfoTree.length - 1
  | .verifiedBatch _ _ => block.VerifiedBatches.length - 1
  | .forkID _ => block.ForkIDs.length - 1
  | .updateEtrogSequence _ => 0

/-- The order entry goes under the last block's hash: `(*blocksOrder)[(*blocks)[len-1].BlockHash]`. -/
def recordOrder (entry : Entry) (blocks : List Block) (blocksOrder : Hash → List Order) :
    Except Failure Accumulators :=
  match blocks.getLast? with
  | some last =>
      .ok ⟨blocks, Function.update blocksOrder last.BlockHash
        (blocksOrder last.BlockHash ++ [⟨entry.name, last.position entry⟩])⟩
  | none => .error (.panic .indexOutOfRange)

/-- The bucket step every handler but the L1 info tree one ends with: a new block (`fresh`,
fetched only here when the handler has not fetched it already) unless the last block has the
log's hash and number. The third branch is the handlers' `error processing <event> event`. -/
def addToBlocks (event : String) (vLog : Log) (fresh : Except Failure Block) (entry : Entry)
    (acc : Accumulators) : Except Failure Accumulators := do
  let blocks ←
    if !isheadBlockInArray acc.blocks vLog.BlockHash vLog.BlockNumber then
      (fun block => acc.blocks ++ [block.push entry]) <$> fresh
    else if isheadBlockInArray acc.blocks vLog.BlockHash vLog.BlockNumber then
      pure (acc.blocks.modifyLast (·.push entry))
    else throw (.error (.processingEvent event))
  recordOrder entry blocks acc.blocksOrder

namespace Client

variable (client : Client)

/-- `BlockByHash` for the log's block as the handlers call it (`error getting hashParent`). -/
def fetchFullBlock (vLog : Log) : Except Failure FullBlock :=
  match client.EthClient.BlockByHash vLog.BlockHash with
  | .ok fullBlock => .ok fullBlock
  | .error cause => .error (.error (.gettingHashParent vLog.BlockNumber.toNat cause))

/-- `retrieveFullBlockForEvent`, and the block a handler opens after fetching it. -/
def retrieveFullBlockForEvent (vLog : Log) : Except Failure Block :=
  (prepareBlock vLog ·) <$> client.fetchFullBlock vLog

/-- The transaction of the log, checked against the log's hash, and its sender. -/
def readTransaction (vLog : Log) : Except Failure (Transaction × Message) := do
  let tx ← liftError (client.EthClient.TransactionInBlock vLog.BlockHash vLog.TxIndex)
  if tx.Hash ≠ vLog.TxHash then throw (.error (.txHashMismatch vLog.TxHash tx.Hash))
  let msg ← transactionToMessage tx
  pure (tx, msg)

/-- `BlockByHash` as `initialSequenceBatches` and `updateEtrogSequence` call it. -/
def fetchFullBlockInfo (vLog : Log) : Except Failure FullBlock :=
  match client.EthClient.BlockByHash vLog.BlockHash with
  | .ok fullBlock => .ok fullBlock
  | .error cause => .error (.error (.gettingFullBlockInfo vLog.BlockNumber.toNat cause))

/-- The record of a `SequenceBatches` log; `NumBatch = 1` is the initial sequence. -/
def sequencedBatchesRecord (vLog : Log) : Except Failure (List SequencedBatch) := do
  let sb ← liftError (client.ZkEVM.ParseSequenceBatches vLog)
  let (tx, msg) ← client.readTransaction vLog
  let sequences ←
    if sb.NumBatch ≠ 1 then
      wrapError .decodingSequences
        (client.decodeSequenceBatches tx.Data sb.NumBatch msg.From vLog.TxHash msg.Nonce sb.L1InfoRoot)
    else
      pure [{ BatchNumber := 1, SequencerAddr := msg.From, TxHash := vLog.TxHash, Nonce := msg.Nonce,
              Coinbase := 0, PolygonZkEVMBatchData := none, PolygonRollupBaseEtrogBatchData := none }]
  pure sequences

def sequencedBatchesEvent (vLog : Log) (acc : Accumulators) : Except Failure Accumulators := do
  let sequences ← client.sequencedBatchesRecord vLog
  addToBlocks "SequencedBatches" vLog (client.retrieveFullBlockForEvent vLog) (.sequenceBatches sequences) acc

/-- The record of a pre-Etrog `SequenceBatches` log. -/
def sequencedBatchesPreEtrogRecord (vLog : Log) : Except Failure (List SequencedBatch) := do
  let sb ← liftError (client.OldZkEVM.ParseSequenceBatches vLog)
  let (tx, msg) ← client.readTransaction vLog
  wrapError .decodingSequences
    (decodeSequencesPreEtrog client.OldpolygonzkevmABI tx.Data sb.NumBatch msg.From vLog.TxHash msg.Nonce)

def sequencedBatchesPreEtrogEvent (vLog : Log) (acc : Accumulators) : Except Failure Accumulators := do
  let sequences ← client.sequencedBatchesPreEtrogRecord vLog
  addToBlocks "SequencedBatches" vLog (client.retrieveFullBlockForEvent vLog) (.sequenceBatches sequences) acc

/-- `processUpdateGlobalExitRootEvent`: the root and the block it was fetched with. -/
def updateGlobalExitRootRecord (mainnetExitRoot rollupExitRoot : Hash) (vLog : Log) :
    Except Failure (GlobalExitRoot × FullBlock) := do
  let fullBlock ← client.fetchFullBlock vLog
  pure ({ BlockNumber := vLog.BlockNumber, MainnetExitRoot := mainnetExitRoot,
          RollupExitRoot := rollupExitRoot, GlobalExitRoot := client.hash mainnetExitRoot rollupExitRoot,
          Timestamp := fullBlock.Time, PreviousBlockHash := 0 }, fullBlock)

def processUpdateGlobalExitRootEvent (mainnetExitRoot rollupExitRoot : Hash) (vLog : Log)
    (acc : Accumulators) : Except Failure Accumulators := do
  let (root, fullBlock) ← client.updateGlobalExitRootRecord mainnetExitRoot rollupExitRoot vLog
  addToBlocks "UpdateGlobalExitRoot" vLog (.ok (prepareBlock vLog fullBlock)) (.globalExitRoot root) acc

def updateGlobalExitRootEvent (vLog : Log) (acc : Accumulators) : Except Failure Accumulators := do
  let roots ← liftError (client.OldGlobalExitRootManager.ParseUpdateGlobalExitRoot vLog)
  client.processUpdateGlobalExitRootEvent roots.MainnetExitRoot roots.RollupExitRoot vLog acc

/-- The L1 info tree root of a log, read from the head block it lands in. -/
def l1InfoTreeRoot (roots : ExitRoots) (vLog : Log) (head : Block) : GlobalExitRoot where
  BlockNumber := vLog.BlockNumber
  MainnetExitRoot := roots.MainnetExitRoot
  RollupExitRoot := roots.RollupExitRoot
  GlobalExitRoot := client.hash roots.MainnetExitRoot roots.RollupExitRoot
  Timestamp := head.ReceivedAt
  PreviousBlockHash := head.ParentHash

/-- `updateL1InfoTreeEvent`: the block is appended first, the root then read from the head. -/
def updateL1InfoTreeEvent (vLog : Log) (acc : Accumulators) : Except Failure Accumulators := do
  let roots ← liftError (client.GlobalExitRootManager.ParseUpdateL1InfoTree vLog)
  let blocks ←
    if !isheadBlockInArray acc.blocks vLog.BlockHash vLog.BlockNumber then
      (fun block => acc.blocks ++ [block]) <$> client.retrieveFullBlockForEvent vLog
    else pure acc.blocks
  match blocks.getLast? with
  | some head =>
      let entry := Entry.l1InfoTree (client.l1InfoTreeRoot roots vLog head)
      recordOrder entry (blocks.modifyLast (·.push entry)) acc.blocksOrder
  | none => throw (.panic .indexOutOfRange)

/-- The forced batch's transactions: the sequencer's own calldata when it sent the transaction,
and the event's bytes otherwise. -/
def forcedBatchTransactions (fb : PolygonzkevmForceBatch) (tx : Transaction) (msg : Message) :
    Except Failure (List UInt8) :=
  if fb.Sequencer = msg.From then do
    let methodId ← sliceTo tx.Data 4
    let method ← liftError (client.PolygonzkevmABI.MethodById methodId)
    let data ← liftError (method.Unpack (tx.Data.drop 4))
    match ← indexAbi data 0 with
    | .bytes bytedata => pure bytedata
    | _ => throw (.panic .typeAssertion)
  else pure fb.Transactions

/-- The record of a `ForceBatch` log. -/
def forcedBatchRecord (vLog : Log) : Except Failure (ForcedBatch × FullBlock) := do
  let fb ← liftError (client.ZkEVM.ParseForceBatch vLog)
  let (tx, msg) ← client.readTransaction vLog
  let rawTxsData ← client.forcedBatchTransactions fb tx msg
  let fullBlock ← client.fetchFullBlock vLog
  pure ({ BlockNumber := vLog.BlockNumber, ForcedBatchNumber := fb.ForceBatchNum,
          Sequencer := fb.Sequencer, GlobalExitRoot := fb.LastGlobalExitRoot,
          RawTxsData := rawTxsData, ForcedAt := fullBlock.Time }, fullBlock)

def forcedBatchEvent (vLog : Log) (acc : Accumulators) : Except Failure Accumulators := do
  let (batch, fullBlock) ← client.forcedBatchRecord vLog
  addToBlocks "ForceBatch" vLog (.ok (prepareBlock vLog fullBlock)) (.forcedBatch batch) acc

/-- The Etrog batch data the handlers synthesise from an event and its block. -/
def etrogBatchData (transactions : List UInt8) (lastGlobalExitRoot : Hash) (fullBlock : FullBlock) :
    PolygonRollupBaseEtrogBatchData where
  Transactions := transactions
  ForcedGlobalExitRoot := lastGlobalExitRoot
  ForcedTimestamp := fullBlock.Time
  ForcedBlockHashL1 := fullBlock.ParentHash

/-- The record of an `InitialSequenceBatches` log: batch 1. -/
def initialSequenceBatchesRecord (vLog : Log) : Except Failure (List SequencedBatch × FullBlock) := do
  let initial ← liftError (client.ZkEVM.ParseInitialSequenceBatches vLog)
  let (_, msg) ← client.readTransaction vLog
  let fullBlock ← client.fetchFullBlockInfo vLog
  pure ([{ BatchNumber := 1, SequencerAddr := initial.Sequencer, TxHash := vLog.TxHash, Nonce := msg.Nonce,
            Coinbase := 0, PolygonZkEVMBatchData := none,
            PolygonRollupBaseEtrogBatchData :=
              some (etrogBatchData initial.Transactions initial.LastGlobalExitRoot fullBlock) }], fullBlock)

def initialSequenceBatches (vLog : Log) (acc : Accumulators) : Except Failure Accumulators := do
  let (sequences, fullBlock) ← client.initialSequenceBatchesRecord vLog
  addToBlocks "SequencedBatches" vLog (.ok (prepareBlock vLog fullBlock)) (.initialSequenceBatches sequences) acc

/-- The record of an `UpdateEtrogSequence` log. -/
def updateEtrogSequenceRecord (vLog : Log) : Except Failure (UpdateEtrogSequence × FullBlock) := do
  let update ← liftError (client.EtrogZKEVM.ParseUpdateEtrogSequence vLog)
  let (_, msg) ← client.readTransaction vLog
  let fullBlock ← client.fetchFullBlockInfo vLog
  pure ({ BatchNumber := update.NumBatch, SequencerAddr := update.Sequencer, TxHash := vLog.TxHash,
          Nonce := msg.Nonce,
          PolygonRollupBaseEtrogBatchData :=
            etrogBatchData update.Transactions update.LastGlobalExitRoot fullBlock }, fullBlock)

def updateEtrogSequence (vLog : Log) (acc : Accumulators) : Except Failure Accumulators := do
  let (sequence, fullBlock) ← client.updateEtrogSequenceRecord vLog
  addToBlocks "UpdateEtrogSequence" vLog (.ok (prepareBlock vLog fullBlock)) (.updateEtrogSequence sequence) acc

/-- The `verifyBatch` record `verifyBatches` fills in. -/
def verifyBatchRecord (vLog : Log) (numBatch : U64) (stateRoot : Hash) (aggregator : Address) :
    VerifiedBatch where
  BlockNumber := vLog.BlockNumber
  BatchNumber := numBatch
  Aggregator := aggregator
  TxHash := vLog.TxHash
  StateRoot := stateRoot

/-- `verifyBatches`, with the order name its caller passes. -/
def verifyBatches (vLog : Log) (acc : Accumulators) (numBatch : U64) (stateRoot : Hash)
    (aggregator : Address) (orderName : EventOrder) : Except Failure Accumulators :=
  addToBlocks "verifyBatch" vLog (client.retrieveFullBlockForEvent vLog)
    (.verifiedBatch (verifyBatchRecord vLog numBatch stateRoot aggregator) orderName) acc

def oldVerifyBatchesTrustedAggregatorEvent (vLog : Log) (acc : Accumulators) :
    Except Failure Accumulators := do
  let vb ← liftError (client.OldZkEVM.ParseVerifyBatchesTrustedAggregator vLog)
  client.verifyBatches vLog acc vb.NumBatch vb.StateRoot vb.Aggregator .TrustedVerifyBatchOrder

/-- The record of a `SequenceForceBatches` log; decoding errors are returned unwrapped. -/
def forceSequencedBatchesRecord (vLog : Log) : Except Failure (List SequencedForceBatch × FullBlock) := do
  let fsb ← liftError (client.ZkEVM.ParseSequenceForceBatches vLog)
  let (tx, msg) ← client.readTransaction vLog
  let fullBlock ← client.fetchFullBlock vLog
  let batches ← decodeSequencedForceBatches client.PolygonzkevmABI tx.Data fsb.NumBatch msg.From
    vLog.TxHash fullBlock msg.Nonce
  pure (batches, fullBlock)

def forceSequencedBatchesEvent (vLog : Log) (acc : Accumulators) : Except Failure Accumulators := do
  let (batches, fullBlock) ← client.forceSequencedBatchesRecord vLog
  addToBlocks "ForceSequencedBatches" vLog (.ok (prepareBlock vLog fullBlock)) (.sequenceForceBatches batches)
    acc

/-- `updateForkId`: events of another rollup are dropped. -/
def updateForkId (vLog : Log) (acc : Accumulators) (batchNum forkID : U64) (version : String)
    (affectedRollupID : U32) : Except Failure Accumulators :=
  if client.RollupID ≠ affectedRollupID then pure acc
  else addToBlocks "updateZkevmVersion" vLog (client.retrieveFullBlockForEvent vLog)
    (.forkID ⟨batchNum, forkID, version⟩) acc

def updateZkevmVersion (vLog : Log) (acc : Accumulators) : Except Failure Accumulators := do
  let zkevmVersion ← liftError (client.OldZkEVM.ParseUpdateZkEVMVersion vLog)
  client.updateForkId vLog acc zkevmVersion.NumBatch zkevmVersion.ForkID zkevmVersion.Version
    client.RollupID

/-- `updateRollup` reads the rollup type before it looks at the rollup id. -/
def updateRollup (vLog : Log) (acc : Accumulators) : Except Failure Accumulators := do
  let event ← liftError (client.RollupManager.ParseUpdateRollup vLog)
  let rollupType ← liftError (client.RollupManager.RollupTypeMap event.NewRollupTypeID)
  client.updateForkId vLog acc event.LastVerifiedBatchBeforeUpgrade rollupType.ForkID "" event.RollupID

/-- `createNewRollup` reads the rollup type before it looks at the rollup id. -/
def createNewRollup (vLog : Log) (acc : Accumulators) : Except Failure Accumulators := do
  let event ← liftError (client.RollupManager.ParseCreateNewRollup vLog)
  let rollupType ← liftError (client.RollupManager.RollupTypeMap event.RollupTypeID)
  client.updateForkId vLog acc 0 rollupType.ForkID "" event.RollupID

def addExistingRollup (vLog : Log) (acc : Accumulators) : Except Failure Accumulators := do
  let event ← liftError (client.RollupManager.ParseAddExistingRollup vLog)
  client.updateForkId vLog acc event.LastVerifiedBatchBeforeUpgrade event.ForkID "" event.RollupID

/-- `processEvent`: the switch on the first topic; ignored and unknown topics change nothing. -/
def processEvent (vLog : Log) (acc : Accumulators) : Except Failure Accumulators := do
  match ← vLog.topic0 with
  | .sequenceBatches => client.sequencedBatchesEvent vLog acc
  | .sequenceBatchesPreEtrog => client.sequencedBatchesPreEtrogEvent vLog acc
  | .updateGlobalExitRoot => client.updateGlobalExitRootEvent vLog acc
  | .updateL1InfoTree => client.updateL1InfoTreeEvent vLog acc
  | .forceBatch => client.forcedBatchEvent vLog acc
  | .initialSequenceBatches => client.initialSequenceBatches vLog acc
  | .updateEtrogSequence => client.updateEtrogSequence vLog acc
  | .oldVerifyBatchesTrustedAggregator => client.oldVerifyBatchesTrustedAggregatorEvent vLog acc
  | .sequenceForceBatches => client.forceSequencedBatchesEvent vLog acc
  | .updateZkEVMVersion => client.updateZkevmVersion vLog acc
  | .updateRollup => client.updateRollup vLog acc
  | .addExistingRollup => client.addExistingRollup vLog acc
  | .createNewRollup => client.createNewRollup vLog acc
  | .ignored _ => pure acc
  | .unregistered _ => pure acc

end Client

end SynchronizerL1.Etherman
