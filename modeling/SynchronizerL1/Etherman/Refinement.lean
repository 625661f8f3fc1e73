import SynchronizerL1.Etherman.ParallelFetch
import SynchronizerL1.Etherman.Buckets

/-!
`readEvents` refines the bucket spec: a successful run returns `bucketRun` over the logs
`FilterLogs` gave.
-/

namespace SynchronizerL1.Etherman

theorem recordOrder_append (entry : Entry) (blocks : List Block) (block : Block)
    (blocksOrder : Hash → List Order) :
    recordOrder entry (blocks ++ [block]) blocksOrder =
      .ok ((⟨blocks, blocksOrder⟩ : Accumulators).commit blocks block entry) := by
  simp [recordOrder, Accumulators.commit]

theorem recordOrder_modifyLast {blocks : List Block} {head : Block} (entry : Entry)
    (blocksOrder : Hash → List Order) (last : blocks.getLast? = some head) :
    recordOrder entry (blocks.modifyLast (·.push entry)) blocksOrder =
      .ok ((⟨blocks, blocksOrder⟩ : Accumulators).commit blocks.dropLast (head.push entry) entry) := by
  rw [← List.dropLast_append_getLast? head last, List.modifyLast_append_one, List.dropLast_concat]
  exact recordOrder_append entry _ _ blocksOrder

/-- Every block carries the header of its hash. -/
def Headed (header : Hash → FullBlock) (acc : Accumulators) : Prop :=
  ∀ block ∈ acc.blocks,
    block.ParentHash = (header block.BlockHash).ParentHash ∧ block.ReceivedAt = (header block.BlockHash).Time

section Spec

variable (header : Hash → FullBlock) (record : Log → Option Entry)

theorem headed_freshAt (key : Hash × U64) :
    (freshAt header key).ParentHash = (header (freshAt header key).BlockHash).ParentHash ∧
      (freshAt header key).ReceivedAt = (header (freshAt header key).BlockHash).Time := ⟨rfl, rfl⟩

/-- Blocks kept from headed ones, followed by one block that carries its header, are headed. -/
theorem headed_append {acc acc' : Accumulators} {front : List Block} {block : Block}
    (headed : Headed header acc) (kept : front ⊆ acc.blocks)
    (blockHeaded : block.ParentHash = (header block.BlockHash).ParentHash ∧
      block.ReceivedAt = (header block.BlockHash).Time)
    (appended : acc'.blocks = front ++ [block]) : Headed header acc' := by
  intro other mem
  rcases List.mem_append.1 (appended ▸ mem) with inFront | isNew
  · exact headed other (kept inFront)
  · exact List.mem_singleton.1 isNew ▸ blockHeaded

theorem headed_openBlock {acc : Accumulators} (headed : Headed header acc) (key : Hash × U64) :
    Headed header (acc.openBlock header key) := by
  have opened : Headed header { acc with blocks := acc.blocks ++ [freshAt header key] } :=
    headed_append header headed (List.Subset.refl _) (headed_freshAt header key) rfl
  unfold Accumulators.openBlock
  split
  · split
    · exact headed
    · exact opened
  · exact opened

theorem headed_bucketRun (keepEmpty : Bool) (logs : List Log) :
    Headed header (bucketRun header record keepEmpty logs) := by
  induction logs using List.reverseRecOn with
  | nil => intro _ mem; cases mem
  | append_singleton front vLog inductionHypothesis =>
      rw [bucketRun_append_singleton]
      rcases put_cases header record keepEmpty (bucketRun header record keepEmpty front) vLog with
        ⟨head, entry, last, -, -, step⟩ | ⟨entry, -, -, step⟩ | ⟨-, -, -, step⟩ | ⟨-, step⟩ <;> rw [step]
      · exact headed_append header inductionHypothesis (List.dropLast_subset _)
          (by simpa using inductionHypothesis head (List.mem_of_getLast?_eq_some last)) rfl
      · exact headed_append header inductionHypothesis (List.Subset.refl _)
          (by simpa using headed_freshAt header vLog.key) rfl
      · exact headed_append header inductionHypothesis (List.Subset.refl _) (headed_freshAt header vLog.key) rfl
      · exact inductionHypothesis

/-- The shared bucket step computes the spec's `addEntry` when the block it would open is the
fresh block of the log's key. -/
theorem addToBlocks_ok {event : String} {vLog : Log} {fresh : Except Failure Block} {entry : Entry}
    {acc acc' : Accumulators} (fetched : ∀ block, fresh = .ok block → block = freshAt header vLog.key)
    (ok : addToBlocks event vLog fresh entry acc = .ok acc') : acc' = acc.addEntry header vLog.key entry := by
  unfold addToBlocks at ok
  rw [isheadBlockInArray_log] at ok
  by_cases lastKey : (acc.blocks.map Block.key).getLast? = some vLog.key
  · obtain ⟨last, lastOk, same⟩ : ∃ last, acc.blocks.getLast? = some last ∧ last.key = vLog.key := by
      simpa [List.getLast?_map] using lastKey
    simp only [lastKey, decide_True, Bool.not_true, Bool.false_eq_true, if_false, if_true, pure_bind,
      recordOrder_modifyLast entry _ lastOk] at ok
    rw [addEntry_of_last header entry lastOk same, ← Except.ok.inj ok]
  · simp only [lastKey, decide_False, Bool.not_false, if_true, bind_eq_ok, map_eq_ok] at ok
    obtain ⟨_, ⟨block, fetchedOk, rfl⟩, recorded⟩ := ok
    rw [fetched block fetchedOk, recordOrder_append] at recorded
    rw [addEntry_of_not_last header entry lastKey, ← Except.ok.inj recorded]

/-- Given the fresh block of the log's key, the shared bucket step always succeeds, with the
spec's `addEntry`. -/
theorem addToBlocks_fresh (event : String) (vLog : Log) (entry : Entry) (acc : Accumulators) :
    addToBlocks event vLog (.ok (freshAt header vLog.key)) entry acc = .ok (acc.addEntry header vLog.key entry) := by
  unfold addToBlocks
  rw [isheadBlockInArray_log]
  by_cases lastKey : (acc.blocks.map Block.key).getLast? = some vLog.key
  · obtain ⟨last, lastOk, same⟩ : ∃ last, acc.blocks.getLast? = some last ∧ last.key = vLog.key := by
      simpa [List.getLast?_map] using lastKey
    simp only [lastKey, decide_True, Bool.not_true, Bool.false_eq_true, if_false, if_true, pure_bind,
      recordOrder_modifyLast entry _ lastOk, addEntry_of_last header entry lastOk same]
  · rw [addEntry_of_not_last header entry lastKey, ← recordOrder_append]
    simp only [lastKey, decide_False, Bool.not_false, if_true]
    rfl

/-- The pre-fetch mode's step is the on-demand step after the log's block was opened. -/
theorem put_false_opened (keepEmpty : Bool) (acc : Accumulators) (vLog : Log) :
    (if keepEmpty then acc.openBlock header vLog.key else acc).put header record false vLog =
      acc.put header record keepEmpty vLog := by
  cases keepEmpty <;> rfl

end Spec

namespace Client

variable (client : Client)

/-- The header `BlockByHash` answers for a hash, and the zero block where the call fails. -/
def header (blockHash : Hash) : FullBlock :=
  match client.EthClient.BlockByHash blockHash with
  | .ok fullBlock => fullBlock
  | .error _ => default

theorem header_of_ok {blockHash : Hash} {fullBlock : FullBlock}
    (answer : client.EthClient.BlockByHash blockHash = .ok fullBlock) : client.header blockHash = fullBlock := by
  simp [header, answer]

theorem fetchFullBlock_ok {vLog : Log} {fullBlock : FullBlock}
    (ok : client.fetchFullBlock vLog = .ok fullBlock) : client.header vLog.BlockHash = fullBlock := by
  unfold fetchFullBlock at ok
  split at ok
  · exact client.header_of_ok (by simp_all)
  · cases ok

theorem fetchFullBlockInfo_ok {vLog : Log} {fullBlock : FullBlock}
    (ok : client.fetchFullBlockInfo vLog = .ok fullBlock) : client.header vLog.BlockHash = fullBlock := by
  unfold fetchFullBlockInfo at ok
  split at ok
  · exact client.header_of_ok (by simp_all)
  · cases ok

theorem prepareBlock_header (vLog : Log) :
    prepareBlock vLog (client.header vLog.BlockHash) = freshAt client.header vLog.key := rfl

theorem retrieveFullBlockForEvent_ok {vLog : Log} :
    ∀ block, client.retrieveFullBlockForEvent vLog = .ok block → block = freshAt client.header vLog.key := by
  intro block ok
  obtain ⟨fullBlock, fetched, rfl⟩ := map_eq_ok.1 ok
  rw [← client.fetchFullBlock_ok fetched]
  rfl

/-- A handler that fetched the block itself opens the fresh block of the log's key. -/
theorem prepared_ok {vLog : Log} {fullBlock : FullBlock} (fetched : client.header vLog.BlockHash = fullBlock) :
    ∀ block, (.ok (prepareBlock vLog fullBlock) : Except Failure Block) = .ok block →
      block = freshAt client.header vLog.key := by
  intro block ok
  cases ok
  rw [← fetched]
  rfl

theorem updateGlobalExitRootRecord_ok {mainnetExitRoot rollupExitRoot : Hash} {vLog : Log} {root : GlobalExitRoot}
    {fullBlock : FullBlock}
    (ok : client.updateGlobalExitRootRecord mainnetExitRoot rollupExitRoot vLog = .ok (root, fullBlock)) :
    client.header vLog.BlockHash = fullBlock := by
  simp only [updateGlobalExitRootRecord, bind_eq_ok] at ok
  obtain ⟨_, fetched, done⟩ := ok
  cases done
  exact client.fetchFullBlock_ok fetched

theorem forcedBatchRecord_ok {vLog : Log} {batch : ForcedBatch} {fullBlock : FullBlock}
    (ok : client.forcedBatchRecord vLog = .ok (batch, fullBlock)) : client.header vLog.BlockHash = fullBlock := by
  simp only [forcedBatchRecord, bind_eq_ok] at ok
  obtain ⟨_, -, _, -, _, -, _, fetched, done⟩ := ok
  cases done
  exact client.fetchFullBlock_ok fetched

theorem initialSequenceBatchesRecord_ok {vLog : Log} {sequences : List SequencedBatch} {fullBlock : FullBlock}
    (ok : client.initialSequenceBatchesRecord vLog = .ok (sequences, fullBlock)) :
    client.header vLog.BlockHash = fullBlock := by
  simp only [initialSequenceBatchesRecord, bind_eq_ok] at ok
  obtain ⟨_, -, _, -, _, fetched, done⟩ := ok
  cases done
  exact client.fetchFullBlockInfo_ok fetched

theorem updateEtrogSequenceRecord_ok {vLog : Log} {sequence : UpdateEtrogSequence} {fullBlock : FullBlock}
    (ok : client.updateEtrogSequenceRecord vLog = .ok (sequence, fullBlock)) :
    client.header vLog.BlockHash = fullBlock := by
  simp only [updateEtrogSequenceRecord, bind_eq_ok] at ok
  obtain ⟨_, -, _, -, _, fetched, done⟩ := ok
  cases done
  exact client.fetchFullBlockInfo_ok fetched

theorem forceSequencedBatchesRecord_ok {vLog : Log} {batches : List SequencedForceBatch} {fullBlock : FullBlock}
    (ok : client.forceSequencedBatchesRecord vLog = .ok (batches, fullBlock)) :
    client.header vLog.BlockHash = fullBlock := by
  simp only [forceSequencedBatchesRecord, bind_eq_ok] at ok
  obtain ⟨_, -, _, -, _, fetched, _, -, done⟩ := ok
  cases done
  exact client.fetchFullBlock_ok fetched

/-- The fork record `updateForkId` adds: none for another rollup. -/
def forkEntry (batchNum forkID : U64) (version : String) (affectedRollupID : U32) : Option Entry :=
  if client.RollupID ≠ affectedRollupID then none else some (.forkID ⟨batchNum, forkID, version⟩)

/-- The record a log's handler adds, if any: each handler's work before its bucket step, with the
L1 info tree root read from the block of the log's key. -/
def entryOf (vLog : Log) : Except Failure (Option Entry) := do
  match ← vLog.topic0 with
  | .sequenceBatches => (some <| .sequenceBatches ·) <$> client.sequencedBatchesRecord vLog
  | .sequenceBatchesPreEtrog => (some <| .sequenceBatches ·) <$> client.sequencedBatchesPreEtrogRecord vLog
  | .updateGlobalExitRoot => do
      let roots ← liftError (client.OldGlobalExitRootManager.ParseUpdateGlobalExitRoot vLog)
      (some <| .globalExitRoot ·.1) <$>
        client.updateGlobalExitRootRecord roots.MainnetExitRoot roots.RollupExitRoot vLog
  | .updateL1InfoTree => do
      let roots ← liftError (client.GlobalExitRootManager.ParseUpdateL1InfoTree vLog)
      pure (some (.l1InfoTree (client.l1InfoTreeRoot roots vLog (freshAt client.header vLog.key))))
  | .forceBatch => (some <| .forcedBatch ·.1) <$> client.forcedBatchRecord vLog
  | .initialSequenceBatches => (some <| .initialSequenceBatches ·.1) <$> client.initialSequenceBatchesRecord vLog
  | .updateEtrogSequence => (some <| .updateEtrogSequence ·.1) <$> client.updateEtrogSequenceRecord vLog
  | .oldVerifyBatchesTrustedAggregator => do
      let vb ← liftError (client.OldZkEVM.ParseVerifyBatchesTrustedAggregator vLog)
      pure (some (.verifiedBatch (verifyBatchRecord vLog vb.NumBatch vb.StateRoot vb.Aggregator)
        .TrustedVerifyBatchOrder))
  | .sequenceForceBatches => (some <| .sequenceForceBatches ·.1) <$> client.forceSequencedBatchesRecord vLog
  | .updateZkEVMVersion => do
      let zkevmVersion ← liftError (client.OldZkEVM.ParseUpdateZkEVMVersion vLog)
      pure (client.forkEntry zkevmVersion.NumBatch zkevmVersion.ForkID zkevmVersion.Version client.RollupID)
  | .updateRollup => do
      let event ← liftError (client.RollupManager.ParseUpdateRollup vLog)
      let rollupType ← liftError (client.RollupManager.RollupTypeMap event.NewRollupTypeID)
      pure (client.forkEntry event.LastVerifiedBatchBeforeUpgrade rollupType.ForkID "" event.RollupID)
  | .addExistingRollup => do
      let event ← liftError (client.RollupManager.ParseAddExistingRollup vLog)
      pure (client.forkEntry event.LastVerifiedBatchBeforeUpgrade event.ForkID "" event.RollupID)
  | .createNewRollup => do
      let event ← liftError (client.RollupManager.ParseCreateNewRollup vLog)
      let rollupType ← liftError (client.RollupManager.RollupTypeMap event.RollupTypeID)
      pure (client.forkEntry 0 rollupType.ForkID "" event.RollupID)
  | .ignored _ | .unregistered _ => pure none

/-- The record of a log, where its handler succeeds. -/
def recordOf (vLog : Log) : Option Entry :=
  match client.entryOf vLog with
  | .ok record => record
  | .error _ => none

theorem recordOf_of_ok {vLog : Log} {record : Option Entry} (ok : client.entryOf vLog = .ok record) :
    client.recordOf vLog = record := by
  simp [recordOf, ok]

theorem updateForkId_ok {vLog : Log} {acc acc' : Accumulators} {batchNum forkID : U64} {version : String}
    {affectedRollupID : U32} (ok : client.updateForkId vLog acc batchNum forkID version affectedRollupID = .ok acc') :
    acc' = (client.forkEntry batchNum forkID version affectedRollupID).elim acc
      (acc.addEntry client.header vLog.key) := by
  unfold updateForkId at ok
  unfold forkEntry
  split at ok
  · rw [if_pos ‹_›]
    exact (Except.ok.inj ok).symm
  · rw [if_neg ‹_›]
    exact addToBlocks_ok client.header client.retrieveFullBlockForEvent_ok ok

/-- The L1 info tree root read from a block that carries its header is the one read from the
fresh block of the log's key. -/
theorem l1InfoTreeRoot_headed (roots : ExitRoots) (vLog : Log) {head : Block}
    (headed : head.ParentHash = (client.header head.BlockHash).ParentHash ∧
      head.ReceivedAt = (client.header head.BlockHash).Time)
    (same : head.BlockHash = vLog.BlockHash) :
    client.l1InfoTreeRoot roots vLog head = client.l1InfoTreeRoot roots vLog (freshAt client.header vLog.key) := by
  simp [l1InfoTreeRoot, headed.1, headed.2, same, freshAt, Log.key]

theorem updateL1InfoTreeEvent_ok {vLog : Log} {acc acc' : Accumulators} (headed : Headed client.header acc)
    (ok : client.updateL1InfoTreeEvent vLog acc = .ok acc') :
    ∃ roots, liftError (client.GlobalExitRootManager.ParseUpdateL1InfoTree vLog) = .ok roots ∧
      acc' = acc.addEntry client.header vLog.key
        (.l1InfoTree (client.l1InfoTreeRoot roots vLog (freshAt client.header vLog.key))) := by
  unfold updateL1InfoTreeEvent at ok
  obtain ⟨roots, parsed, rest⟩ := bind_eq_ok.1 ok
  refine ⟨roots, parsed, ?_⟩
  rw [isheadBlockInArray_log] at rest
  by_cases lastKey : (acc.blocks.map Block.key).getLast? = some vLog.key
  · obtain ⟨last, lastOk, same⟩ : ∃ last, acc.blocks.getLast? = some last ∧ last.key = vLog.key := by
      simpa [List.getLast?_map] using lastKey
    simp only [lastKey, decide_True, Bool.not_true, Bool.false_eq_true, if_false, pure_bind, lastOk] at rest
    rw [recordOrder_modifyLast _ _ lastOk,
      client.l1InfoTreeRoot_headed roots vLog (headed last (List.mem_of_getLast?_eq_some lastOk))
        (congrArg Prod.fst same)] at rest
    rw [addEntry_of_last client.header _ lastOk same, ← Except.ok.inj rest]
  · simp only [lastKey, decide_False, Bool.not_false, if_true, bind_eq_ok, map_eq_ok] at rest
    obtain ⟨_, ⟨block, fetchedOk, rfl⟩, recorded⟩ := rest
    rw [client.retrieveFullBlockForEvent_ok block fetchedOk, List.getLast?_concat] at recorded
    simp only [List.modifyLast_append_one, recordOrder_append] at recorded
    rw [addEntry_of_not_last client.header _ lastKey, ← Except.ok.inj recorded]

/-- The only verified batches a handler records are the trusted aggregator's. -/
theorem named_of_entryOf {vLog : Log} {entry : Entry} (ok : client.entryOf vLog = .ok (some entry)) :
    entry.named := by
  cases entry with
  | verifiedBatch batch orderName =>
      obtain ⟨topic, -, recorded⟩ := bind_eq_ok.1 ok
      cases topic <;> simp [forkEntry] at recorded
      case oldVerifyBatchesTrustedAggregator =>
        obtain ⟨_, -, -, rfl⟩ := recorded
        rfl
  | _ => rfl

theorem named_of_recordOf {vLog : Log} {entry : Entry} (recorded : client.recordOf vLog = some entry) :
    entry.named := by
  unfold recordOf at recorded
  split at recorded
  · rename_i found
    exact client.named_of_entryOf (recorded ▸ found)
  · cases recorded

/-- A successful handler adds the log's record, if any, to the block of the log's key. -/
theorem processEvent_ok {vLog : Log} {acc acc' : Accumulators} (headed : Headed client.header acc)
    (ok : client.processEvent vLog acc = .ok acc') :
    ∃ record, client.entryOf vLog = .ok record ∧
      acc' = record.elim acc (acc.addEntry client.header vLog.key) := by
  obtain ⟨topic, topicOk, handled⟩ := bind_eq_ok.1 ok
  simp only [entryOf, topicOk, bind_eq_ok]
  cases topic with
  | sequenceBatches | sequenceBatchesPreEtrog =>
      obtain ⟨sequences, recorded, added⟩ := bind_eq_ok.1 handled
      exact ⟨some _, by simp [recorded],
        addToBlocks_ok client.header client.retrieveFullBlockForEvent_ok added⟩
  | updateGlobalExitRoot =>
      obtain ⟨roots, parsed, processed⟩ := bind_eq_ok.1 handled
      obtain ⟨⟨root, fullBlock⟩, recorded, added⟩ := bind_eq_ok.1 processed
      exact ⟨some _, by simp [parsed, recorded], addToBlocks_ok client.header
        (client.prepared_ok (client.updateGlobalExitRootRecord_ok recorded)) added⟩
  | updateL1InfoTree =>
      obtain ⟨roots, parsed, added⟩ := client.updateL1InfoTreeEvent_ok headed handled
      exact ⟨some _, by simp [parsed], added⟩
  | forceBatch =>
      obtain ⟨⟨payload, fullBlock⟩, recorded, added⟩ := bind_eq_ok.1 handled
      exact ⟨some _, by simp [recorded], addToBlocks_ok client.header
        (client.prepared_ok (client.forcedBatchRecord_ok recorded)) added⟩
  | initialSequenceBatches =>
      obtain ⟨⟨payload, fullBlock⟩, recorded, added⟩ := bind_eq_ok.1 handled
      exact ⟨some _, by simp [recorded], addToBlocks_ok client.header
        (client.prepared_ok (client.initialSequenceBatchesRecord_ok recorded)) added⟩
  | updateEtrogSequence =>
      obtain ⟨⟨payload, fullBlock⟩, recorded, added⟩ := bind_eq_ok.1 handled
      exact ⟨some _, by simp [recorded], addToBlocks_ok client.header
        (client.prepared_ok (client.updateEtrogSequenceRecord_ok recorded)) added⟩
  | oldVerifyBatchesTrustedAggregator =>
      obtain ⟨vb, parsed, added⟩ := bind_eq_ok.1 handled
      exact ⟨some _, by simp [parsed], addToBlocks_ok client.header client.retrieveFullBlockForEvent_ok added⟩
  | sequenceForceBatches =>
      obtain ⟨⟨payload, fullBlock⟩, recorded, added⟩ := bind_eq_ok.1 handled
      exact ⟨some _, by simp [recorded], addToBlocks_ok client.header
        (client.prepared_ok (client.forceSequencedBatchesRecord_ok recorded)) added⟩
  | updateZkEVMVersion =>
      obtain ⟨zkevmVersion, parsed, updated⟩ := bind_eq_ok.1 handled
      exact ⟨_, by simp [parsed], client.updateForkId_ok updated⟩
  | addExistingRollup =>
      obtain ⟨event, parsed, updated⟩ := bind_eq_ok.1 handled
      exact ⟨_, by simp [parsed], client.updateForkId_ok updated⟩
  | updateRollup | createNewRollup =>
      obtain ⟨event, parsed, rest⟩ := bind_eq_ok.1 handled
      obtain ⟨rollupType, typed, updated⟩ := bind_eq_ok.1 rest
      exact ⟨_, by simp [parsed, typed], client.updateForkId_ok updated⟩
  | ignored _ | unregistered _ => exact ⟨none, ⟨_, rfl, rfl⟩, (Except.ok.inj handled).symm⟩

/-- A successful handler takes the spec's on-demand step. -/
theorem processEvent_put {vLog : Log} {acc acc' : Accumulators} (headed : Headed client.header acc)
    (ok : client.processEvent vLog acc = .ok acc') : acc' = acc.put client.header client.recordOf false vLog := by
  obtain ⟨record, recorded, added⟩ := client.processEvent_ok headed ok
  rw [added]
  unfold Accumulators.put
  rw [client.recordOf_of_ok recorded]
  cases record <;> rfl


theorem retryBlockByHash_ok {blockHash : Hash} {fullBlock : FullBlock} :
    ∀ {remainingRetries : Nat} {slept : List Nat},
      (client.retryBlockByHash blockHash remainingRetries slept).1 = .ok fullBlock →
        client.EthClient.BlockByHash blockHash = .ok fullBlock
  | remainingRetries, slept, ok => by
      unfold retryBlockByHash at ok
      split at ok
      · cases ok
      · exact retryBlockByHash_ok ok
      · exact ok

/-- `BlockByHash` answers every log's hash with a block of that hash and of the log's number. -/
def Consistent (logs : List Log) : Prop :=
  ∀ vLog ∈ logs, ∀ fullBlock, client.EthClient.BlockByHash vLog.BlockHash = .ok fullBlock →
    fullBlock.Hash = vLog.BlockHash ∧ fullBlock.NumberU64 = vLog.BlockNumber

theorem retrieveFullBlockbyHash_ok {logs : List Log} {vLog : Log} {block : Block}
    (consistent : client.Consistent logs) (mem : vLog ∈ logs)
    (ok : client.retrieveFullBlockbyHash vLog.BlockHash = .ok block) : block = freshAt client.header vLog.key := by
  unfold retrieveFullBlockbyHash at ok
  split at ok
  · rename_i fullBlock answered
    have answer := client.retryBlockByHash_ok answered
    obtain ⟨sameHash, sameNumber⟩ := consistent vLog mem fullBlock answer
    cases ok
    simp [freshAt, Log.key, client.header_of_ok answer, sameHash, sameNumber]
  · cases ok

/-- A successful pre-fetch holds, for the hash of every log, the block `retrieveFullBlockbyHash`
returned for it. -/
theorem prefetchBlocks_ok {schedule : Schedule} {logs : List Log} {retrieved : Hash → Option Block}
    (parallel : client.cfg.PararellBlockRequest = true) (ok : client.prefetchBlocks schedule logs = .ok retrieved) :
    ∀ vLog ∈ logs, ∃ block, client.retrieveFullBlockbyHash vLog.BlockHash = .ok block ∧
      retrieved vLog.BlockHash = some block := by
  unfold prefetchBlocks at ok
  rw [if_pos parallel] at ok
  split at ok
  · rename_i blocksRetrieved retrievedAll
    cases ok
    set results := (getBlockHashesFromLogs logs).map fun blockHash =>
      (blockHash, client.retrieveFullBlockbyHash blockHash)
    have order := schedule.perm results
    -- Each hash is fetched by the same client, so two fetches of it agree.
    have sameBlock : ∀ blockHash block block', (blockHash, .ok block) ∈ schedule.order results →
        (blockHash, .ok block') ∈ schedule.order results → block = block' := by
      intro blockHash block block' first second
      obtain ⟨_, -, first⟩ := List.mem_map.1 (order.subset first)
      obtain ⟨_, -, second⟩ := List.mem_map.1 (order.subset second)
      simp only [Prod.mk.injEq] at first second
      obtain ⟨rfl, fetchedFirst⟩ := first
      obtain ⟨rfl, fetchedSecond⟩ := second
      exact Except.ok.inj (fetchedFirst.symm.trans fetchedSecond)
    have noError := congrArg Prod.snd retrievedAll
    rw [retrieveBlocksInParallel_error, List.getLast?_eq_none_iff, failures, List.filterMap_eq_nil_iff] at noError
    intro vLog mem
    have listed : (vLog.BlockHash, client.retrieveFullBlockbyHash vLog.BlockHash) ∈ schedule.order results :=
      order.symm.subset (List.mem_map.2 ⟨vLog.BlockHash, List.mem_map_of_mem _ mem, rfl⟩)
    have quiet := noError _ listed
    cases fetched : client.retrieveFullBlockbyHash vLog.BlockHash with
    | error cause => simp [fetched] at quiet
    | ok block =>
        refine ⟨block, rfl, ?_⟩
        have mapped : (retrieveBlocksInParallel (schedule.order results)).1 = retrieved := by rw [retrievedAll]
        rw [← mapped]
        exact (retrieveBlocksInParallel_map sameBlock _ _).mpr (fetched ▸ listed)
  · cases ok

theorem appendRetrieved_openBlock {retrieved : Hash → Option Block} {vLog : Log}
    (fetched : retrieved vLog.BlockHash = some (freshAt client.header vLog.key)) (acc : Accumulators) :
    appendRetrieved retrieved vLog acc = acc.openBlock client.header vLog.key := by
  unfold appendRetrieved
  rw [isheadBlockInArray_log]
  by_cases lastKey : (acc.blocks.map Block.key).getLast? = some vLog.key
  · simp [lastKey, openBlock_of_last client.header lastKey]
  · rw [openBlock_of_not_last client.header lastKey, decide_eq_false lastKey]
    simp [fetched]

theorem appendRetrieved_none (vLog : Log) (acc : Accumulators) : appendRetrieved (fun _ => none) vLog acc = acc := by
  unfold appendRetrieved
  split <;> rfl

/-- The loop of `readEvents` runs the spec's steps from the run over the logs already processed. -/
theorem processLogs_ok {keepEmpty : Bool} {retrieved : Hash → Option Block} {logs : List Log}
    (opens : ∀ vLog ∈ logs, ∀ acc, appendRetrieved retrieved vLog acc =
      if keepEmpty then acc.openBlock client.header vLog.key else acc)
    {done : List Log} {acc' : Accumulators}
    (ok : client.processLogs retrieved logs (bucketRun client.header client.recordOf keepEmpty done) = .ok acc') :
    acc' = bucketRun client.header client.recordOf keepEmpty (done ++ logs) := by
  induction logs generalizing done with
  | nil => simpa using (Except.ok.inj ok).symm
  | cons vLog rest inductionHypothesis =>
      simp only [processLogs, bind_eq_ok] at ok
      obtain ⟨_, -, processedAcc, processed, restOk⟩ := ok
      rw [opens vLog (List.mem_cons_self _ _)] at processed
      have headed : Headed client.header
          (if keepEmpty then (bucketRun client.header client.recordOf keepEmpty done).openBlock client.header vLog.key
           else bucketRun client.header client.recordOf keepEmpty done) := by
        split
        · exact headed_openBlock client.header (headed_bucketRun client.header client.recordOf keepEmpty done) _
        · exact headed_bucketRun client.header client.recordOf keepEmpty done
      rw [client.processEvent_put headed processed, put_false_opened, ← bucketRun_append_singleton] at restOk
      rw [inductionHypothesis (fun other mem => opens other (List.mem_cons_of_mem _ mem)) restOk]
      simp

/-- A successful `readEvents` returns the spec's run over the logs `FilterLogs` gave, with the
pre-fetch mode's empty blocks when `PararellBlockRequest` is on, given that in that mode
`BlockByHash` answers each log's hash with a block of that hash and number. -/
theorem readEvents_bucketRun {schedule : Schedule} {query : FilterQuery} {logs : List Log}
    {blocks : List Block} {blocksOrder : Hash → List Order}
    (filtered : client.EthClient.FilterLogs query = .ok logs)
    (consistent : client.cfg.PararellBlockRequest = true → client.Consistent logs)
    (ok : client.readEvents schedule query = .ok (blocks, blocksOrder)) :
    blocks = (bucketRun client.header client.recordOf client.cfg.PararellBlockRequest logs).blocks ∧
      blocksOrder = (bucketRun client.header client.recordOf client.cfg.PararellBlockRequest logs).blocksOrder := by
  simp only [readEvents, bind_eq_ok, filtered, liftError_ok] at ok
  obtain ⟨_, fetchedLogs, retrieved, prefetched, _, -, acc, processed, done⟩ := ok
  cases fetchedLogs
  have opens : ∀ vLog ∈ logs, ∀ acc, appendRetrieved retrieved vLog acc =
      if client.cfg.PararellBlockRequest then acc.openBlock client.header vLog.key else acc := by
    intro vLog mem acc
    cases parallel : client.cfg.PararellBlockRequest
    · simp only [prefetchBlocks, parallel, Bool.false_eq_true, if_false] at prefetched
      cases prefetched
      exact appendRetrieved_none vLog acc
    · obtain ⟨block, fetchedOk, stored⟩ := client.prefetchBlocks_ok parallel prefetched vLog mem
      rw [client.retrieveFullBlockbyHash_ok (consistent parallel) mem fetchedOk] at stored
      exact client.appendRetrieved_openBlock stored acc
  have run := @processLogs_ok client _ _ _ opens [] _ processed
  cases done
  exact ⟨congrArg Accumulators.blocks run, congrArg Accumulators.blocksOrder run⟩

end Client

end SynchronizerL1.Etherman
