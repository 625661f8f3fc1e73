import SynchronizerL1.Etherman.RangeReader
import SynchronizerL1.Etherman.NewClient

/-!
The two range readers the synchronizer calls, and the L1 info tree leaves that are all the second
one returns.
-/

namespace SynchronizerL1.Etherman

/-- A block that holds nothing but L1 info tree leaves. -/
def Block.onlyL1InfoTree (block : Block) : Prop :=
  block.GlobalExitRoots = [] ∧ block.ForcedBatches = [] ∧ block.SequencedBatches = [] ∧
    block.UpdateEtrogSequence = none ∧ block.VerifiedBatches = [] ∧ block.SequencedForceBatches = [] ∧
    block.ForkIDs = []

instance : DecidablePred Block.onlyL1InfoTree := fun _ => inferInstanceAs (Decidable (_ ∧ _))

/-- Accumulators whose blocks hold only L1 info tree leaves, and whose orders all name one. -/
def Accumulators.onlyL1InfoTree (acc : Accumulators) : Prop :=
  (∀ block ∈ acc.blocks, block.onlyL1InfoTree) ∧
    ∀ blockHash, ∀ order ∈ acc.blocksOrder blockHash, order.Name = .L1InfoTreeOrder

theorem onlyL1InfoTree_prepareBlock (vLog : Log) (fullBlock : FullBlock) :
    (prepareBlock vLog fullBlock).onlyL1InfoTree :=
  ⟨rfl, rfl, rfl, rfl, rfl, rfl, rfl⟩

theorem onlyL1InfoTree_push {block : Block} (only : block.onlyL1InfoTree) (root : GlobalExitRoot) :
    (block.push (.l1InfoTree root)).onlyL1InfoTree :=
  only

/-- A bucket step that keeps its blocks and pushes an L1 info tree leaf keeps the accumulators
holding only such leaves. -/
theorem onlyL1InfoTree_commit {acc : Accumulators} {front : List Block} {block : Block} {root : GlobalExitRoot}
    (orders : ∀ blockHash, ∀ order ∈ acc.blocksOrder blockHash, order.Name = .L1InfoTreeOrder)
    (kept : ∀ other ∈ front, other.onlyL1InfoTree) (pushed : block.onlyL1InfoTree) :
    (acc.commit front block (.l1InfoTree root)).onlyL1InfoTree := by
  refine ⟨fun other mem => ?_, fun blockHash order mem => ?_⟩
  · rcases List.mem_append.1 mem with inFront | isNew
    · exact kept other inFront
    · exact List.mem_singleton.1 isNew ▸ pushed
  · rw [Accumulators.blocksOrder_commit] at mem
    split at mem
    · rcases List.mem_append.1 mem with earlier | isNew
      · exact orders blockHash order earlier
      · rw [List.mem_singleton.1 isNew]
        rfl
    · exact orders blockHash order mem

namespace Client

variable (client : Client)

/-- The loop of `readEvents` keeps a property of the accumulators that appending a pre-fetched block
and every handler of the logs keep. -/
theorem processLogs_invariant (holds : Accumulators → Prop) {retrieved : Hash → Option Block}
    {logs : List Log} {acc acc' : Accumulators}
    (appended : ∀ vLog ∈ logs, ∀ acc, holds acc → holds (appendRetrieved retrieved vLog acc))
    (handled : ∀ vLog ∈ logs, ∀ acc acc', holds acc → client.processEvent vLog acc = .ok acc' → holds acc')
    (start : holds acc) (ok : client.processLogs retrieved logs acc = .ok acc') : holds acc' := by
  induction logs generalizing acc with
  | nil => exact (Except.ok.inj ok) ▸ start
  | cons vLog rest inductionHypothesis =>
      simp only [processLogs, bind_eq_ok] at ok
      obtain ⟨-, -, next, processed, continued⟩ := ok
      have here := List.mem_cons_self vLog rest
      refine inductionHypothesis (fun later mem => appended later (List.mem_cons_of_mem _ mem))
        (fun later mem => handled later (List.mem_cons_of_mem _ mem)) ?_ continued
      exact handled vLog here _ next (appended vLog here acc start) processed

theorem onlyL1InfoTree_retrieveFullBlockbyHash {blockHash : Hash} {block : Block}
    (ok : client.retrieveFullBlockbyHash blockHash = .ok block) : block.onlyL1InfoTree := by
  unfold retrieveFullBlockbyHash at ok
  split at ok <;> cases ok
  exact ⟨rfl, rfl, rfl, rfl, rfl, rfl, rfl⟩

/-- The blocks pre-fetched for the logs hold no record. -/
theorem onlyL1InfoTree_prefetched {schedule : Schedule} {logs : List Log} {retrieved : Hash → Option Block}
    (ok : client.prefetchBlocks schedule logs = .ok retrieved) :
    ∀ vLog ∈ logs, ∀ acc, acc.onlyL1InfoTree → (appendRetrieved retrieved vLog acc).onlyL1InfoTree := by
  intro vLog mem acc only
  cases parallel : client.cfg.PararellBlockRequest
  · simp only [prefetchBlocks, parallel, Bool.false_eq_true, if_false, Except.ok.injEq] at ok
    rw [← ok, appendRetrieved_none]
    exact only
  · obtain ⟨block, fetched, stored⟩ := client.prefetchBlocks_ok parallel ok vLog mem
    unfold appendRetrieved
    split
    · rw [stored]
      refine ⟨fun other inBlocks => ?_, only.2⟩
      rcases List.mem_append.1 inBlocks with earlier | isNew
      · exact only.1 other earlier
      · exact List.mem_singleton.1 isNew ▸ client.onlyL1InfoTree_retrieveFullBlockbyHash fetched
    · exact only

/-- The L1 info tree handler opens the log's block when it is not the last one and pushes a leaf
onto the last block. -/
theorem onlyL1InfoTree_updateL1InfoTreeEvent {vLog : Log} {acc acc' : Accumulators} (only : acc.onlyL1InfoTree)
    (ok : client.updateL1InfoTreeEvent vLog acc = .ok acc') : acc'.onlyL1InfoTree := by
  unfold updateL1InfoTreeEvent at ok
  obtain ⟨roots, -, rest⟩ := bind_eq_ok.1 ok
  cases head : isheadBlockInArray acc.blocks vLog.BlockHash vLog.BlockNumber
  · -- the block is fetched and appended, and the leaf pushed onto it
    simp only [head, Bool.not_false, if_true, bind_eq_ok, map_eq_ok] at rest
    obtain ⟨_, ⟨block, fetched, rfl⟩, recorded⟩ := rest
    obtain ⟨fullBlock, -, rfl⟩ := map_eq_ok.1 fetched
    simp only [List.getLast?_concat, List.modifyLast_append_one, recordOrder_append, Except.ok.injEq] at recorded
    subst recorded
    exact onlyL1InfoTree_commit only.2 only.1 (onlyL1InfoTree_push (onlyL1InfoTree_prepareBlock vLog fullBlock) _)
  · -- the leaf is pushed onto the last block
    simp only [head, Bool.not_true, Bool.false_eq_true, if_false, pure_bind] at rest
    cases last : acc.blocks.getLast? with
    | none => simp [last] at rest
    | some lastBlock =>
        simp only [last] at rest
        rw [recordOrder_modifyLast _ _ last, Except.ok.injEq] at rest
        subst rest
        exact onlyL1InfoTree_commit only.2 (fun block mem => only.1 block (List.dropLast_subset _ mem))
          (onlyL1InfoTree_push (only.1 lastBlock (List.mem_of_getLast?_eq_some last)) _)

end Client

namespace FullClient

variable (etherMan : FullClient)

/-- The query of `GetRollupInfoByBlockRange`: every log of the package's contracts from
`fromBlock`, up to `toBlock` when it is given. -/
def rollupInfoQuery (fromBlock : U64) (toBlock : Option U64) : FilterQuery :=
  ⟨fromBlock, toBlock, etherMan.SCAddresses, []⟩

/-- `GetRollupInfoByBlockRange`. -/
def getRollupInfoByBlockRange (schedule : Schedule) (fromBlock : U64) (toBlock : Option U64) :
    Except Failure (List Block × (Hash → List Order)) :=
  etherMan.readEvents schedule (etherMan.rollupInfoQuery fromBlock toBlock)

/-- The query of `GetRollupInfoByBlockRangePreviousRollupGenesis`: the `UpdateL1InfoTree` logs of
the global exit root manager from `fromBlock`, up to `toBlock` when it is given. -/
def previousRollupGenesisQuery (fromBlock : U64) (toBlock : Option U64) : FilterQuery :=
  ⟨fromBlock, toBlock, [etherMan.Contracts.GlobalExitRootManagerAddr], [[.updateL1InfoTree]]⟩

/-- `GetRollupInfoByBlockRangePreviousRollupGenesis`. -/
def getRollupInfoByBlockRangePreviousRollupGenesis (schedule : Schedule) (fromBlock : U64)
    (toBlock : Option U64) : Except Failure (List Block × (Hash → List Order)) :=
  etherMan.readEvents schedule (etherMan.previousRollupGenesisQuery fromBlock toBlock)

/-- The range reader returns the spec's bucket run over the logs of its query. -/
theorem getRollupInfoByBlockRange_bucketRun {schedule : Schedule} {fromBlock : U64} {toBlock : Option U64}
    {logs : List Log} {blocks : List Block} {blocksOrder : Hash → List Order}
    (filtered : etherMan.EthClient.FilterLogs (etherMan.rollupInfoQuery fromBlock toBlock) = .ok logs)
    (consistent : etherMan.cfg.PararellBlockRequest = true → etherMan.Consistent logs)
    (ok : etherMan.getRollupInfoByBlockRange schedule fromBlock toBlock = .ok (blocks, blocksOrder)) :
    blocks = (bucketRun etherMan.header etherMan.recordOf etherMan.cfg.PararellBlockRequest logs).blocks ∧
      blocksOrder = (bucketRun etherMan.header etherMan.recordOf etherMan.cfg.PararellBlockRequest logs).blocksOrder :=
  etherMan.readEvents_bucketRun filtered consistent ok

/-- The reader of the L1 info tree before the rollup's genesis returns blocks that hold only L1
info tree leaves, and orders that all name one, whenever the node answers its query with logs
whose first topic is `UpdateL1InfoTree`, as the query asks; whatever blocks the node returns for
their hashes, in either fetch mode. -/
theorem getRollupInfoByBlockRangePreviousRollupGenesis_onlyL1InfoTree {schedule : Schedule}
    {fromBlock : U64} {toBlock : Option U64} {logs : List Log} {blocks : List Block}
    {blocksOrder : Hash → List Order}
    (filtered : etherMan.EthClient.FilterLogs (etherMan.previousRollupGenesisQuery fromBlock toBlock) = .ok logs)
    (topics : ∀ vLog ∈ logs, vLog.Topics.head? = some .updateL1InfoTree)
    (ok : etherMan.getRollupInfoByBlockRangePreviousRollupGenesis schedule fromBlock toBlock =
      .ok (blocks, blocksOrder)) :
    (∀ block ∈ blocks, block.onlyL1InfoTree) ∧
      ∀ blockHash, ∀ order ∈ blocksOrder blockHash, order.Name = .L1InfoTreeOrder := by
  simp only [getRollupInfoByBlockRangePreviousRollupGenesis, Client.readEvents, bind_eq_ok, filtered,
    liftError_ok] at ok
  obtain ⟨_, fetchedLogs, retrieved, prefetched, _, -, acc, processed, done⟩ := ok
  cases fetchedLogs
  cases done
  have empty : Accumulators.empty.onlyL1InfoTree := ⟨nofun, nofun⟩
  refine etherMan.processLogs_invariant Accumulators.onlyL1InfoTree
    (etherMan.onlyL1InfoTree_prefetched prefetched) (fun vLog mem acc acc' only handled => ?_) empty processed
  obtain ⟨rest, first⟩ := List.head?_eq_some_iff.1 (topics vLog mem)
  simp only [Client.processEvent, Log.topic0, first, ok_bind] at handled
  exact etherMan.onlyL1InfoTree_updateL1InfoTreeEvent only handled

end FullClient

/-- An L1 info tree update in block 1. -/
def l1InfoTreeLog : Log := ⟨[.updateL1InfoTree], [], 1, 7, 0, 1⟩

/-- The sample L1 of `sampleClient` answering every filter with one L1 info tree update, whose
exit roots are 1 and 2, as a client of chain 1 in the pre-fetch mode. -/
def l1InfoTreeClient : FullClient where
  toClient := { Client.sampleClient [l1InfoTreeLog] true 0 [] with GlobalExitRootManager := ⟨fun _ => .ok ⟨1, 2⟩⟩ }
  L1ChainID := 1
  Contracts := ⟨1, 2, 3⟩
  GasProviders := {}
  auth _ := none
  validium := none

/-- One L1 info tree update, read with its block pre-fetched. -/
theorem getRollupInfoByBlockRangePreviousRollupGenesis_one_update :
    ∃ result, l1InfoTreeClient.getRollupInfoByBlockRangePreviousRollupGenesis Client.inOrder 0 none = .ok result ∧
      (∀ block ∈ result.1, block.onlyL1InfoTree) ∧
      ∀ blockHash, ∀ order ∈ result.2 blockHash, order.Name = .L1InfoTreeOrder :=
  ⟨_, rfl, @FullClient.getRollupInfoByBlockRangePreviousRollupGenesis_onlyL1InfoTree l1InfoTreeClient Client.inOrder
    0 none _ _ _ rfl (by decide) rfl⟩

end SynchronizerL1.Etherman
