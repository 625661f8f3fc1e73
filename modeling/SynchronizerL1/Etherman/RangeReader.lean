import SynchronizerL1.Etherman.Refinement

/-!
What the Range Reader returns, read off the refinement `readEvents_bucketRun`, and the ordering
check its handlers never fail.
-/

namespace SynchronizerL1.Etherman

namespace Client

variable (client : Client)

/-- The client with the fetch mode set. -/
def withPrefetch (parallel : Bool) : Client :=
  { client with cfg := { client.cfg with PararellBlockRequest := parallel } }

@[simp] theorem header_withPrefetch (parallel : Bool) : (client.withPrefetch parallel).header = client.header := rfl

@[simp] theorem recordOf_withPrefetch (parallel : Bool) :
    (client.withPrefetch parallel).recordOf = client.recordOf := rfl

@[simp] theorem PararellBlockRequest_withPrefetch (parallel : Bool) :
    (client.withPrefetch parallel).cfg.PararellBlockRequest = parallel := rfl

theorem named_of_mem_recordsOf {logs : List Log} {blockHash : Hash} {entry : Entry}
    (mem : entry ∈ recordsOf client.recordOf logs blockHash) : entry.named := by
  obtain ⟨vLog, -, recorded⟩ := List.mem_filterMap.1 mem
  exact client.named_of_recordOf recorded

/-- What the Range Reader returns over grouped logs: one block per run of logs with a record
(per run of logs in the pre-fetch mode), with distinct hashes; orders only under those hashes;
and for each block one order entry per record of its logs, in log order, that resolves to the
record as the block holds it in the end. -/
structure Buckets (logs : List Log) (blocks : List Block) (blocksOrder : Hash → List Order) : Prop where
  keys : blocks.map Block.key =
    ((logs.filter (kept client.recordOf client.cfg.PararellBlockRequest)).map Log.key).destutter (· ≠ ·)
  distinct : (blocks.map Block.BlockHash).Nodup
  ordered : ∀ blockHash, blocksOrder blockHash ≠ [] → ∃ block ∈ blocks, block.BlockHash = blockHash
  names : ∀ block ∈ blocks,
    (blocksOrder block.BlockHash).map Order.Name = (recordsOf client.recordOf logs block.BlockHash).map Entry.name
  resolves : ∀ block ∈ blocks,
    (blocksOrder block.BlockHash).map block.resolve =
      (recordsOf client.recordOf logs block.BlockHash).map (some ∘ block.settle)

/-- Over grouped logs a successful `readEvents` returns the Range Reader's buckets, given that in
the pre-fetch mode `BlockByHash` answers each log's hash with a block of that hash and number. -/
theorem readEvents_buckets {schedule : Schedule} {query : FilterQuery} {logs : List Log}
    {blocks : List Block} {blocksOrder : Hash → List Order}
    (filtered : client.EthClient.FilterLogs query = .ok logs) (grouped : Grouped logs)
    (consistent : client.cfg.PararellBlockRequest = true → client.Consistent logs)
    (ok : client.readEvents schedule query = .ok (blocks, blocksOrder)) :
    client.Buckets logs blocks blocksOrder := by
  obtain ⟨rfl, rfl⟩ := client.readEvents_bucketRun filtered consistent ok
  have trails := @trail_bucketRun client.header client.recordOf client.cfg.PararellBlockRequest logs grouped
  have named : ∀ blockHash, ∀ entry ∈ recordsOf client.recordOf logs blockHash, entry.named :=
    fun _ _ mem => client.named_of_mem_recordsOf mem
  refine ⟨map_key_bucketRun client.header client.recordOf _ logs,
    nodup_map_BlockHash_bucketRun client.header client.recordOf grouped,
    fun _ ordered => exists_block_of_blocksOrder client.header client.recordOf ordered,
    fun block mem => ?_, fun block mem => ?_⟩
  · have names := (resolve_trail (freshAt client.header block.key) _ (named block.BlockHash)).1
    rwa [← trails block mem] at names
  · have resolves := (resolve_trail (freshAt client.header block.key) _ (named block.BlockHash)).2
    rwa [← trails block mem] at resolves

/-- An L1 whose block of hash `h` has number `h`, parent 5, time 100 and reported hash
`h + hashOffset`; whose transactions have hash 7, nonce 3, sender 9 and calldata `calldata`; whose
sequence batches report batch 5 and whose Etrog sequence updates report the length of the log's
data. Every other binding fails. -/
def sampleClient (logs : List Log) (parallel : Bool) (hashOffset : Nat) (calldata : List UInt8) : Client where
  EthClient :=
    { FilterLogs := fun _ => .ok logs
      BlockByHash := fun blockHash => .ok ⟨BitVec.ofNat 64 blockHash, 5, 100, blockHash + hashOffset⟩
      TransactionInBlock := fun _ _ => .ok ⟨calldata, 3, .ok 9, 7⟩ }
  OldZkEVM :=
    { ParseUpdateZkEVMVersion := fun _ => .error (.rpc "no event")
      ParseSequenceBatches := fun _ => .error (.rpc "no event")
      ParseVerifyBatchesTrustedAggregator := fun _ => .error (.rpc "no event") }
  EtrogZKEVM := { ParseUpdateEtrogSequence := fun vLog => .ok ⟨BitVec.ofNat 64 vLog.Data.length, [], 0, 9⟩ }
  ZkEVM :=
    { ParseSequenceBatches := fun _ => .ok ⟨5, 0⟩
      ParseForceBatch := fun _ => .error (.rpc "no event")
      ParseInitialSequenceBatches := fun _ => .error (.rpc "no event")
      ParseSequenceForceBatches := fun _ => .error (.rpc "no event") }
  RollupManager :=
    { ParseUpdateRollup := fun _ => .error (.rpc "no event")
      ParseAddExistingRollup := fun _ => .error (.rpc "no event")
      ParseCreateNewRollup := fun _ => .error (.rpc "no event")
      RollupTypeMap := fun _ => .error (.rpc "no rollup type") }
  GlobalExitRootManager := { ParseUpdateL1InfoTree := fun _ => .error (.rpc "no event") }
  OldGlobalExitRootManager := { ParseUpdateGlobalExitRoot := fun _ => .error (.rpc "no event") }
  SCAddresses := []
  SequenceBatchesDecoders := []
  RollupID := 1
  cfg := { ForkIDChunkSize := 10, PararellBlockRequest := parallel }
  PolygonzkevmABI := ⟨fun _ => .error (.rpc "no method")⟩
  OldpolygonzkevmABI := ⟨fun _ => .error (.rpc "no method")⟩
  hash := fun mainnetExitRoot rollupExitRoot => mainnetExitRoot + rollupExitRoot

/-- The schedule in which the goroutines complete in the order they were started. -/
def inOrder : Schedule := ⟨id, fun _ => List.Perm.refl _⟩

/-- An Etrog sequence update of the block with hash and number `block`, with `size` bytes of data. -/
def etrogUpdate (block size : Nat) : Log :=
  ⟨[.updateEtrogSequence], List.replicate size 0, BitVec.ofNat 64 block, 7, 0, block⟩

theorem readEvents_buckets_two_updates :
    ∃ blocks blocksOrder,
      (sampleClient [etrogUpdate 1 1, etrogUpdate 1 2] false 0 []).readEvents inOrder ⟨0, none, [], []⟩ =
        .ok (blocks, blocksOrder) ∧
      (sampleClient [etrogUpdate 1 1, etrogUpdate 1 2] false 0 []).Buckets
        [etrogUpdate 1 1, etrogUpdate 1 2] blocks blocksOrder :=
  ⟨_, _, rfl, @readEvents_buckets _ inOrder ⟨0, none, [], []⟩ _ _ _ rfl (by decide)
    (fun never => nomatch never) rfl⟩

/-- Two Etrog sequence updates in one block leave two entries `{UpdateEtrogSequence, 0}` and one
slot, holding the second update; and a pre-fetched block whose reported hash differs from the logs'
is kept beside the block the handler opens. -/
theorem readEvents_etrog_update_overwritten :
    Grouped [etrogUpdate 1 1, etrogUpdate 1 2] ∧
    ((sampleClient [etrogUpdate 1 1, etrogUpdate 1 2] false 0 []).readEvents inOrder ⟨0, none, [], []⟩).map
        (fun result => (result.1.map (·.UpdateEtrogSequence.map (·.BatchNumber)), result.2 1)) =
      .ok ([some 2], [⟨.UpdateEtrogSequenceOrder, 0⟩, ⟨.UpdateEtrogSequenceOrder, 0⟩]) ∧
    ((sampleClient [etrogUpdate 1 1, etrogUpdate 1 2] false 0 []).updateEtrogSequenceRecord
        (etrogUpdate 1 1)).map (·.1.BatchNumber) = .ok 1 ∧
    ((sampleClient [etrogUpdate 1 1] true 4 []).readEvents inOrder ⟨0, none, [], []⟩).map
        (·.1.map Block.BlockHash) = .ok [5, 1] :=
  ⟨by decide, rfl, rfl, rfl⟩

end Client

/-! ### The ordering check -/

/-- A result other than the handlers' ordering error `error processing <event> event`. -/
def NotOrdering {α : Type} (result : Except Failure α) : Prop :=
  ∀ event, result ≠ .error (.error (.processingEvent event))

theorem notOrdering_ok {α : Type} (value : α) : NotOrdering (.ok value : Except Failure α) :=
  fun _ => nofun

theorem NotOrdering.bind {α β : Type} {value : Except Failure α} {next : α → Except Failure β}
    (first : NotOrdering value) (rest : ∀ input, NotOrdering (next input)) : NotOrdering (value >>= next) := by
  cases value with
  | error cause =>
      intro event failed
      rw [error_bind, Except.error.injEq] at failed
      exact first event (by rw [failed])
  | ok input => exact rest input

theorem NotOrdering.map {α β : Type} {value : Except Failure α} (f : α → β) (first : NotOrdering value) :
    NotOrdering (f <$> value) := by
  cases value with
  | error cause =>
      intro event failed
      change (Except.error cause : Except Failure β) = _ at failed
      exact first event (by injection failed with same; rw [same])
  | ok input => exact notOrdering_ok _

/-- A step that cannot fail on the order hands the ordering error of what it binds to any other
step on the same value. -/
theorem bind_ordering {α β γ : Type} {value : Except Failure α} {next : α → Except Failure β}
    {other : α → Except Failure γ} {event : String}
    (step : ∀ input, next input = .error (.error (.processingEvent event)) →
      other input = .error (.error (.processingEvent event)))
    (failed : (value >>= next) = .error (.error (.processingEvent event))) :
    (value >>= other) = .error (.error (.processingEvent event)) := by
  cases value with
  | error cause =>
      rw [error_bind, Except.error.injEq] at failed ⊢
      exact failed
  | ok input => exact step input failed

theorem map_ordering {α β γ : Type} {value : Except Failure α} {next : α → Except Failure β} {f : α → γ}
    {event : String} (step : ∀ input, NotOrdering (next input))
    (failed : (value >>= next) = .error (.error (.processingEvent event))) :
    (f <$> value) = .error (.error (.processingEvent event)) := by
  cases value with
  | error cause =>
      rw [error_bind, Except.error.injEq] at failed
      rw [failed]
      rfl
  | ok input => exact absurd failed (step input event)

theorem Log.topic0_notOrdering (vLog : Log) : NotOrdering vLog.topic0 := by
  unfold Log.topic0
  split
  · exact notOrdering_ok _
  · exact fun _ => nofun

theorem logEvents_notOrdering (logs : List Log) : NotOrdering (logEvents logs) := by
  induction logs with
  | nil => exact notOrdering_ok _
  | cons vLog rest inductionHypothesis => exact (Log.topic0_notOrdering vLog).bind fun _ => inductionHypothesis

theorem recordOrder_notOrdering (entry : Entry) (blocks : List Block) (blocksOrder : Hash → List Order) :
    NotOrdering (recordOrder entry blocks blocksOrder) := by
  unfold recordOrder
  split
  · exact notOrdering_ok _
  · exact fun _ => nofun

/-- The ordering check of the shared bucket step never fails: `isheadBlockInArray` is false or
true, so the step opens a block or extends the tail, and fails only where the fresh block does. -/
theorem addToBlocks_notOrdering {event : String} {vLog : Log} {fresh : Except Failure Block}
    (fetched : NotOrdering fresh) (entry : Entry) (acc : Accumulators) :
    NotOrdering (addToBlocks event vLog fresh entry acc) := by
  unfold addToBlocks
  cases isheadBlockInArray acc.blocks vLog.BlockHash vLog.BlockNumber
  · exact (fetched.map _).bind fun _ => recordOrder_notOrdering _ _ _
  · exact (notOrdering_ok _).bind fun _ => recordOrder_notOrdering _ _ _

namespace Client

variable (client : Client)

theorem retrieveFullBlockForEvent_notOrdering (vLog : Log) : NotOrdering (client.retrieveFullBlockForEvent vLog) := by
  refine NotOrdering.map _ ?_
  unfold fetchFullBlock
  split
  · exact notOrdering_ok _
  · exact fun _ => nofun

theorem updateForkId_notOrdering (vLog : Log) (acc : Accumulators) (batchNum forkID : U64) (version : String)
    (affectedRollupID : U32) : NotOrdering (client.updateForkId vLog acc batchNum forkID version affectedRollupID) := by
  unfold updateForkId
  split
  · exact notOrdering_ok _
  · exact addToBlocks_notOrdering (client.retrieveFullBlockForEvent_notOrdering vLog) _ _

/-- The handlers never fail on the order of the logs: where `processEvent` fails with the ordering
error, the record of the log (`entryOf`) fails with it. -/
theorem processEvent_ordering {vLog : Log} {acc : Accumulators} {event : String}
    (failed : client.processEvent vLog acc = .error (.error (.processingEvent event))) :
    client.entryOf vLog = .error (.error (.processingEvent event)) := by
  have fetched := client.retrieveFullBlockForEvent_notOrdering vLog
  have forked := client.updateForkId_notOrdering vLog acc
  unfold processEvent at failed
  unfold entryOf
  cases topic : vLog.topic0 with
  | error cause =>
      rw [topic, error_bind, Except.error.injEq] at failed
      rw [error_bind, failed]
  | ok topic0 =>
      cases topic0 <;> simp only [topic, ok_bind] at failed ⊢
      case sequenceBatches | sequenceBatchesPreEtrog =>
        exact map_ordering (fun _ => addToBlocks_notOrdering fetched _ _) failed
      case updateGlobalExitRoot =>
        exact bind_ordering (fun _ => map_ordering fun ⟨_, _⟩ => addToBlocks_notOrdering (notOrdering_ok _) _ _) failed
      case updateL1InfoTree =>
        -- the block is fetched or the tail kept, and the leaf pushed onto the head
        simp only [updateL1InfoTreeEvent] at failed
        refine bind_ordering (fun _ handled => absurd handled ?_) failed
        split <;> refine NotOrdering.bind ?_
          (fun _ => by split; exacts [recordOrder_notOrdering _ _ _, fun _ => nofun]) event
        · exact fetched.map _
        · exact notOrdering_ok _
      case forceBatch | initialSequenceBatches | updateEtrogSequence | sequenceForceBatches =>
        exact map_ordering (fun ⟨_, _⟩ => addToBlocks_notOrdering (notOrdering_ok _) _ _) failed
      case oldVerifyBatchesTrustedAggregator =>
        exact bind_ordering (fun _ handled => absurd handled (addToBlocks_notOrdering fetched _ _ _)) failed
      case updateZkEVMVersion | addExistingRollup =>
        exact bind_ordering (fun _ handled => absurd handled (forked _ _ _ _ _)) failed
      case updateRollup | createNewRollup =>
        exact bind_ordering (fun _ => bind_ordering fun _ handled => absurd handled (forked _ _ _ _ _)) failed
      case ignored | unregistered => cases failed

/-- The loop of `readEvents` fails with the ordering error only where the record of one of its
logs does. -/
theorem processLogs_ordering {retrieved : Hash → Option Block} {logs : List Log} {acc : Accumulators}
    {event : String} (failed : client.processLogs retrieved logs acc = .error (.error (.processingEvent event))) :
    ∃ vLog ∈ logs, client.entryOf vLog = .error (.error (.processingEvent event)) := by
  induction logs generalizing acc with
  | nil => cases failed
  | cons vLog rest inductionHypothesis =>
      simp only [processLogs] at failed
      rcases bind_eq_error.1 failed with topicFailed | ⟨_, -, failed⟩
      · exact absurd topicFailed (vLog.topic0_notOrdering event)
      rcases bind_eq_error.1 failed with handled | ⟨_, -, continued⟩
      · exact ⟨vLog, List.mem_cons_self _ _, client.processEvent_ordering handled⟩
      · obtain ⟨later, mem, recorded⟩ := inductionHypothesis continued
        exact ⟨later, List.mem_cons_of_mem _ mem, recorded⟩

theorem retrieveFullBlockbyHash_notOrdering (blockHash : Hash) (event : String) :
    client.retrieveFullBlockbyHash blockHash ≠ .error (.processingEvent event) := by
  unfold retrieveFullBlockbyHash
  split <;> exact nofun

/-- A pre-fetch fails with the error of fetching one of the blocks. -/
theorem prefetchBlocks_notOrdering (schedule : Schedule) (logs : List Log) :
    NotOrdering (client.prefetchBlocks schedule logs) := by
  intro event failed
  unfold prefetchBlocks at failed
  split at failed
  · split at failed
    · cases failed
    · next cause stored =>
        cases failed
        have last := retrieveBlocksInParallel_error (schedule.order ((getBlockHashesFromLogs logs).map
          fun blockHash => (blockHash, client.retrieveFullBlockbyHash blockHash)))
        rw [stored] at last
        obtain ⟨done, scheduled, isError⟩ := List.mem_filterMap.1 (List.mem_of_getLast?_eq_some last.symm)
        obtain ⟨blockHash, -, rfl⟩ := List.mem_map.1 ((schedule.perm _).mem_iff.1 scheduled)
        apply client.retrieveFullBlockbyHash_notOrdering blockHash event
        revert isError
        cases client.retrieveFullBlockbyHash blockHash <;> simp
  · cases failed

/-- `readEvents` never fails on the order of the logs: its ordering error is the error of the
record of one of the logs. -/
theorem readEvents_ordering {schedule : Schedule} {query : FilterQuery} {logs : List Log} {event : String}
    (filtered : client.EthClient.FilterLogs query = .ok logs)
    (failed : client.readEvents schedule query = .error (.error (.processingEvent event))) :
    ∃ vLog ∈ logs, client.entryOf vLog = .error (.error (.processingEvent event)) := by
  simp only [readEvents, filtered, liftError_ok, ok_bind] at failed
  rcases bind_eq_error.1 failed with prefetchFailed | ⟨_, -, failed⟩
  · exact absurd prefetchFailed (client.prefetchBlocks_notOrdering schedule logs event)
  rcases bind_eq_error.1 failed with logged | ⟨_, -, failed⟩
  · exact absurd logged (logEvents_notOrdering logs event)
  rcases bind_eq_error.1 failed with processed | ⟨_, -, done⟩
  · exact client.processLogs_ordering processed
  · cases done

/-- A pre-fetch that succeeds found a block for every log's hash, and consistent answers then give
the logs of one hash one number. -/
theorem sameNumber_of_prefetch {schedule : Schedule} {logs : List Log} {retrieved : Hash → Option Block}
    (consistent : client.Consistent logs) (parallel : client.cfg.PararellBlockRequest = true)
    (prefetched : client.prefetchBlocks schedule logs = .ok retrieved) : SameNumber logs := by
  have answered : ∀ vLog ∈ logs, ∃ fullBlock, client.EthClient.BlockByHash vLog.BlockHash = .ok fullBlock := by
    intro vLog mem
    obtain ⟨block, fetched, -⟩ := client.prefetchBlocks_ok parallel prefetched vLog mem
    unfold retrieveFullBlockbyHash at fetched
    split at fetched
    · exact ⟨_, client.retryBlockByHash_ok ‹_›⟩
    · cases fetched
  intro first firstMem second secondMem sameHash
  obtain ⟨fullBlock, answer⟩ := answered first firstMem
  have secondAnswer : client.EthClient.BlockByHash second.BlockHash = .ok fullBlock := sameHash ▸ answer
  exact (consistent first firstMem fullBlock answer).2.symm.trans
    (consistent second secondMem fullBlock secondAnswer).2

/-- Over contiguous logs and consistent block answers, the pre-fetch and the on-demand runs return
the same orders, and the pre-fetch run's blocks that received a record are the on-demand run's
blocks. -/
theorem readEvents_fetch_modes_agree {schedule : Schedule} {query : FilterQuery} {logs : List Log}
    {blocksPrefetched blocksOnDemand : List Block} {ordersPrefetched ordersOnDemand : Hash → List Order}
    (filtered : client.EthClient.FilterLogs query = .ok logs) (contiguous : Contiguous logs)
    (consistent : client.Consistent logs)
    (prefetched : (client.withPrefetch true).readEvents schedule query = .ok (blocksPrefetched, ordersPrefetched))
    (onDemand : (client.withPrefetch false).readEvents schedule query = .ok (blocksOnDemand, ordersOnDemand)) :
    ordersPrefetched = ordersOnDemand ∧ blocksPrefetched.filter Block.received = blocksOnDemand := by
  have sameNumber : SameNumber logs := by
    have started := prefetched
    simp only [readEvents, bind_eq_ok, liftError_ok] at started
    obtain ⟨_, fetchedLogs, retrieved, found, -⟩ := started
    rw [show (client.withPrefetch true).EthClient.FilterLogs query = .ok logs from filtered] at fetchedLogs
    cases fetchedLogs
    exact (client.withPrefetch true).sameNumber_of_prefetch consistent rfl found
  obtain ⟨rfl, rfl⟩ := (client.withPrefetch true).readEvents_bucketRun filtered (fun _ => consistent) prefetched
  obtain ⟨rfl, rfl⟩ := (client.withPrefetch false).readEvents_bucketRun filtered (fun never => nomatch never)
    onDemand
  obtain ⟨sameBlocks, sameOrders⟩ := bucketRun_filter_received client.header client.recordOf
    ⟨contiguous, sameNumber⟩
  exact ⟨sameOrders, sameBlocks⟩

/-- A log of a topic the package ignores, in the block with hash and number 2. -/
def ignoredLog : Log := ⟨[.ignored .setBatchFee], [], 2, 7, 0, 2⟩

theorem readEvents_fetch_modes_agree_ignored_block :
    ∃ blocksPrefetched ordersPrefetched blocksOnDemand ordersOnDemand,
      ((sampleClient [ignoredLog, etrogUpdate 1 1] false 0 []).withPrefetch true).readEvents inOrder
          ⟨0, none, [], []⟩ = .ok (blocksPrefetched, ordersPrefetched) ∧
      ((sampleClient [ignoredLog, etrogUpdate 1 1] false 0 []).withPrefetch false).readEvents inOrder
          ⟨0, none, [], []⟩ = .ok (blocksOnDemand, ordersOnDemand) ∧
      ordersPrefetched = ordersOnDemand ∧ blocksPrefetched.filter Block.received = blocksOnDemand :=
  ⟨_, _, _, _, rfl, rfl, @readEvents_fetch_modes_agree (sampleClient [ignoredLog, etrogUpdate 1 1] false 0 []) inOrder ⟨0, none, [], []⟩ _ _ _ _ _ rfl (by decide)
    (by
      intro vLog mem fullBlock answer
      cases answer
      simp only [List.mem_cons, List.mem_singleton, List.not_mem_nil, or_false] at mem
      rcases mem with rfl | rfl <;> exact ⟨rfl, rfl⟩)
    rfl rfl⟩

theorem logEvents_topicless {logs : List Log} (topicless : ∃ vLog ∈ logs, vLog.Topics = []) :
    logEvents logs = .error (.panic .indexOutOfRange) := by
  induction logs with
  | nil => simp at topicless
  | cons vLog rest inductionHypothesis =>
      cases topics : vLog.Topics with
      | nil => simp [logEvents, Log.topic0, topics, bind, Except.bind]
      | cons topic _ =>
          have inRest : ∃ other ∈ rest, other.Topics = [] := by
            obtain ⟨other, mem, empty⟩ := topicless
            rcases List.mem_cons.1 mem with rfl | inRest
            · simp [topics] at empty
            · exact ⟨other, inRest, empty⟩
          simp [logEvents, Log.topic0, topics, bind, Except.bind, inductionHypothesis inRest]

/-- Calldata shorter than a selector makes every decoder of the package panic on `txData[:4]`. -/
theorem decoders_short_calldata {txData : List UInt8} (short : txData.length < 4) :
    (∀ lastBatchNumber sequencer txHash nonce l1InfoRoot,
      client.decodeSequenceBatches txData lastBatchNumber sequencer txHash nonce l1InfoRoot =
        .error (.panic .sliceBoundsOutOfRange)) ∧
    (∀ lastBatchNumber sequencer txHash nonce,
      decodeSequencesPreEtrog client.OldpolygonzkevmABI txData lastBatchNumber sequencer txHash nonce =
        .error (.panic .sliceBoundsOutOfRange)) ∧
    (∀ lastBatchNumber sequencer txHash block nonce,
      decodeSequencedForceBatches client.PolygonzkevmABI txData lastBatchNumber sequencer txHash block nonce =
        .error (.panic .sliceBoundsOutOfRange)) := by
  refine ⟨fun _ _ _ _ _ => ?_, fun _ _ _ _ => ?_, fun _ _ _ _ _ => ?_⟩ <;>
    simp [decodeSequenceBatches, decodeSequencesPreEtrog, decodeSequencedForceBatches, unpackBatches,
      sliceTo_of_lt short, bind, Except.bind]

/-- The Range Reader reads `Topics[0]` of every log before any handler runs: once the logs are
fetched, a log without topics makes `readEvents` panic. -/
theorem readEvents_topicless_panics {schedule : Schedule} {query : FilterQuery} {logs : List Log}
    {retrieved : Hash → Option Block} (filtered : client.EthClient.FilterLogs query = .ok logs)
    (prefetched : client.prefetchBlocks schedule logs = .ok retrieved)
    (topicless : ∃ vLog ∈ logs, vLog.Topics = []) :
    client.readEvents schedule query = .error (.panic .indexOutOfRange) := by
  simp [readEvents, filtered, prefetched, logEvents_topicless topicless, bind, Except.bind]

theorem readEvents_topicless_log :
    (sampleClient [⟨[], [], 1, 7, 0, 1⟩] false 0 []).readEvents inOrder ⟨0, none, [], []⟩ =
      .error (.panic .indexOutOfRange) :=
  readEvents_topicless_panics _ rfl rfl ⟨_, List.mem_singleton_self _, rfl⟩

end Client

end SynchronizerL1.Etherman
