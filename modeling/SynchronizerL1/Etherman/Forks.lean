import SynchronizerL1.Etherman.Refinement
import Mathlib.Algebra.Group.Nat.Basic

/-!
The fork history: `VerifyGenBlockNumber` on the genesis block, and `GetForks`, which reads the
fork-defining logs in chunks and stitches them into consecutive `ForkIDInterval`s.
-/

namespace SynchronizerL1.Etherman

/-- `ForkIDInterval`. -/
structure ForkIDInterval where
  FromBatchNumber : U64
  ToBatchNumber : U64
  ForkId : U64
  Version : String
  BlockNumber : U64
  deriving DecidableEq, Repr

/-- `math.MaxUint64`. -/
def maxUint64 : U64 := BitVec.allOnes 64

theorem le_maxUint64 (value : U64) : value ≤ maxUint64 := by
  rw [BitVec.le_def, maxUint64, BitVec.toNat_allOnes]
  have := value.isLt
  omega

/-- A step of `ForkIDChunkSize = MaxUint64` wraps back to where it started. -/
theorem add_maxUint64_add_one (value : U64) : value + maxUint64 + 1 = value := by
  rw [BitVec.add_assoc, show maxUint64 + 1 = 0 by decide]
  exact BitVec.add_zero value

/-- The interval both branches of `GetForks` build for a retained event: from the batch after
the event's, open up to `MaxUint64`. -/
def openFork (zkevmVersion : OldpolygonzkevmUpdateZkEVMVersion) (blockNumber : U64) : ForkIDInterval :=
  ⟨zkevmVersion.NumBatch + 1, maxUint64, zkevmVersion.ForkID, zkevmVersion.Version, blockNumber⟩

/-- `forks[len(forks)-1].ToBatchNumber = numBatch`; index `-1` of an empty slice panics. -/
def setLastToBatchNumber (forks : List ForkIDInterval) (numBatch : U64) :
    Except Failure (List ForkIDInterval) :=
  if forks.isEmpty then .error (.panic .indexOutOfRange)
  else .ok (forks.modifyLast fun fork => { fork with ToBatchNumber := numBatch })

/-- Modelled from the spec: the intervals the retained fork events define, each from the batch
after its event's to the next event's batch, the last one to `MaxUint64`. -/
def forkIntervals : List (OldpolygonzkevmUpdateZkEVMVersion × U64) → List ForkIDInterval
  | [] => []
  | [event] => [openFork event.1 event.2]
  | event :: next :: retained =>
      { openFork event.1 event.2 with ToBatchNumber := next.1.NumBatch } :: forkIntervals (next :: retained)

section ForkIntervals

variable (event next : OldpolygonzkevmUpdateZkEVMVersion × U64)
  (retained : List (OldpolygonzkevmUpdateZkEVMVersion × U64))

theorem forkIntervals_cons_cons :
    forkIntervals (event :: next :: retained) =
      { openFork event.1 event.2 with ToBatchNumber := next.1.NumBatch } :: forkIntervals (next :: retained) :=
  rfl

theorem length_forkIntervals : (forkIntervals retained).length = retained.length := by
  induction retained with
  | nil => rfl
  | cons event retained inductionHypothesis =>
      cases retained with
      | nil => rfl
      | cons next retained => simp [forkIntervals_cons_cons, inductionHypothesis]

/-- Consecutive intervals meet: each ends on the batch before the next one starts. -/
theorem chain_forkIntervals :
    (forkIntervals retained).Chain' fun fork next => fork.ToBatchNumber + 1 = next.FromBatchNumber := by
  induction retained with
  | nil => exact List.chain'_nil
  | cons event retained inductionHypothesis =>
      cases retained with
      | nil => exact List.chain'_singleton _
      | cons next retained =>
          rw [forkIntervals_cons_cons]
          cases retained with
          | nil => exact List.chain'_cons.2 ⟨rfl, List.chain'_singleton _⟩
          | cons after retained =>
              rw [forkIntervals_cons_cons] at inductionHypothesis ⊢
              exact List.Chain'.cons rfl inductionHypothesis

/-- The last interval is open up to `MaxUint64`. -/
theorem getLast?_forkIntervals :
    ((forkIntervals (event :: retained)).getLast?).map ForkIDInterval.ToBatchNumber = some maxUint64 := by
  induction retained generalizing event with
  | nil => rfl
  | cons next retained inductionHypothesis =>
      obtain ⟨last, isLast, closes⟩ := Option.map_eq_some'.1 (inductionHypothesis next)
      rw [forkIntervals_cons_cons, List.getLast?_cons, isLast]
      exact congrArg some closes

theorem head?_forkIntervals :
    ((forkIntervals (event :: retained)).head?).map ForkIDInterval.FromBatchNumber = some (event.1.NumBatch + 1) := by
  cases retained <;> rfl

end ForkIntervals

/-- Modelled from the spec: the ranges `[s, e]` that cover the blocks `[start, last]` in chunks
of `chunkSize + 1` blocks, each starting right after the one before. -/
def chunkRanges (chunkSize last start : Nat) : List (Nat × Nat) :=
  if start ≤ last then
    (start, min (start + chunkSize) last) :: chunkRanges chunkSize last (start + chunkSize + 1)
  else []
termination_by last + 1 - start

theorem chunkRanges_of_lt {chunkSize last start : Nat} (beyond : last < start) :
    chunkRanges chunkSize last start = [] := by
  rw [chunkRanges, if_neg (by omega)]

/-- The chunks cover `[start, last]` exactly once and in order: their blocks, one chunk after the
other, are the blocks of the whole range. -/
theorem chunkRanges_cover (chunkSize last start : Nat) :
    (chunkRanges chunkSize last start).flatMap (fun range => List.range' range.1 (range.2 + 1 - range.1)) =
      List.range' start (last + 1 - start) := by
  induction start using chunkRanges.induct chunkSize last with
  | case1 start inRange inductionHypothesis =>
      rw [chunkRanges, if_pos inRange, List.flatMap_cons, inductionHypothesis]
      by_cases lastChunk : last ≤ start + chunkSize
      · rw [Nat.min_eq_right lastChunk, show last + 1 - (start + chunkSize + 1) = 0 by omega]
        simp
      · rw [Nat.min_eq_left (by omega)]
        refine (List.range'_eq_append_iff.2 ⟨chunkSize + 1, by omega, ?_, ?_⟩).symm
        · congr 1
          omega
        · congr 1
          omega
  | case2 start outOfRange =>
      rw [chunkRanges, if_neg outOfRange, show last + 1 - start = 0 by omega]
      rfl

/-- No chunk is empty or inverted, and none holds more than `chunkSize + 1` blocks. -/
theorem chunkRanges_bounded (chunkSize last start : Nat) :
    ∀ range ∈ chunkRanges chunkSize last start, range.1 ≤ range.2 ∧ range.2 ≤ range.1 + chunkSize := by
  induction start using chunkRanges.induct chunkSize last with
  | case1 start inRange inductionHypothesis =>
      rw [chunkRanges, if_pos inRange]
      rintro range (_ | ⟨_, later⟩)
      · exact ⟨by omega, by omega⟩
      · exact inductionHypothesis range later
  | case2 start outOfRange =>
      rw [chunkRanges, if_neg outOfRange]
      exact fun _ never => nomatch never

/-- A byte of a log's data, zero past its end. -/
def Log.byte (vLog : Log) (index : Nat) : Nat := (vLog.Data.getD index 0).toNat

/-- A fork-defining log of the block with hash and number `block`, whose data holds its rollup
id and its batch. -/
def forkLog (topic : Topic) (rollupID batch block : Nat) : Log :=
  ⟨[topic], [UInt8.ofNat rollupID, UInt8.ofNat batch], BitVec.ofNat 64 block, 7, 0, block⟩

/-- A client of rollup 1 whose L1 answers every filter with `logs`, whose fork events read their
rollup id and batch from the first two bytes of the log's data, and whose rollup type `t` runs
fork `t + 10`. Every other binding fails. -/
def forkClient (logs : List Log) (chunkSize : U64) : Client where
  EthClient :=
    { FilterLogs := fun _ => .ok logs
      BlockByHash := fun blockHash => .ok ⟨BitVec.ofNat 64 blockHash, 5, 100, blockHash⟩
      TransactionInBlock := fun _ _ => .error (.rpc "no transaction") }
  OldZkEVM :=
    { ParseUpdateZkEVMVersion := fun vLog => .ok ⟨BitVec.ofNat 64 (vLog.byte 1), 6, "v6"⟩
      ParseSequenceBatches := fun _ => .error (.rpc "no event")
      ParseVerifyBatchesTrustedAggregator := fun _ => .error (.rpc "no event") }
  EtrogZKEVM := { ParseUpdateEtrogSequence := fun _ => .error (.rpc "no event") }
  ZkEVM :=
    { ParseSequenceBatches := fun _ => .error (.rpc "no event")
      ParseForceBatch := fun _ => .error (.rpc "no event")
      ParseInitialSequenceBatches := fun _ => .error (.rpc "no event")
      ParseSequenceForceBatches := fun _ => .error (.rpc "no event") }
  RollupManager :=
    { ParseUpdateRollup := fun vLog => .ok ⟨BitVec.ofNat 32 (vLog.byte 0), 2, BitVec.ofNat 64 (vLog.byte 1)⟩
      ParseAddExistingRollup := fun vLog => .ok ⟨BitVec.ofNat 32 (vLog.byte 0), 7, BitVec.ofNat 64 (vLog.byte 1)⟩
      ParseCreateNewRollup := fun vLog => .ok ⟨BitVec.ofNat 32 (vLog.byte 0), 3⟩
      RollupTypeMap := fun rollupTypeID => .ok ⟨BitVec.ofNat 64 (rollupTypeID.toNat + 10)⟩ }
  GlobalExitRootManager := { ParseUpdateL1InfoTree := fun _ => .error (.rpc "no event") }
  OldGlobalExitRootManager := { ParseUpdateGlobalExitRoot := fun _ => .error (.rpc "no event") }
  SCAddresses := []
  SequenceBatchesDecoders := []
  RollupID := 1
  cfg := { ForkIDChunkSize := chunkSize, PararellBlockRequest := false }
  PolygonzkevmABI := ⟨fun _ => .error (.rpc "no method")⟩
  OldpolygonzkevmABI := ⟨fun _ => .error (.rpc "no method")⟩
  hash := fun mainnetExitRoot rollupExitRoot => mainnetExitRoot + rollupExitRoot

namespace Client

variable (client : Client)

/-- The `FilterLogs` query of `VerifyGenBlockNumber`. -/
def genesisQuery (genBlockNumber : U64) : FilterQuery :=
  ⟨genBlockNumber, some genBlockNumber, client.SCAddresses, [[.updateZkEVMVersion, .createNewRollup]]⟩

/-- `VerifyGenBlockNumber`: the first log of the genesis block must define the initial fork. -/
def verifyGenBlockNumber (genBlockNumber : U64) : Except Failure Bool := do
  let logs ← liftError (client.EthClient.FilterLogs (client.genesisQuery genBlockNumber))
  match logs with
  | [] => throw (.error .noForkIDEvent)
  | first :: _ =>
      let zkevmVersion : OldpolygonzkevmUpdateZkEVMVersion ← match ← first.topic0 with
        | .updateZkEVMVersion => liftError (client.OldZkEVM.ParseUpdateZkEVMVersion first)
        | .createNewRollup => do
            let event ← liftError (client.RollupManager.ParseCreateNewRollup first)
            let rollupType ← liftError (client.RollupManager.RollupTypeMap event.RollupTypeID)
            pure { ForkID := rollupType.ForkID, NumBatch := 0 }
        | _ => pure {}
      if zkevmVersion.NumBatch ≠ 0 then throw (.error (.notInitialForkID zkevmVersion.NumBatch))
      else pure true

/-- The `FilterLogs` query of one chunk of `GetForks`. -/
def forkQuery (fromBlock toBlock : U64) : FilterQuery :=
  ⟨fromBlock, some toBlock, client.SCAddresses,
    [[.updateZkEVMVersion, .updateRollup, .addExistingRollup, .createNewRollup]]⟩

/-- The chunk loop of `GetForks` from block `i`, for at most `fuel` rounds: it runs on `uint64` and
need not end, so it answers `none` while it still runs. -/
def filterForkLogs (lastL1BlockSynced : U64) : Nat → U64 → List Log → Option (Except Failure (List Log))
  | 0, i, logs => if i ≤ lastL1BlockSynced then none else some (.ok logs)
  | fuel + 1, i, logs =>
      if i ≤ lastL1BlockSynced then
        let final :=
          if i + client.cfg.ForkIDChunkSize > lastL1BlockSynced then lastL1BlockSynced
          else i + client.cfg.ForkIDChunkSize
        match client.EthClient.FilterLogs (client.forkQuery i final) with
        | .ok l => filterForkLogs lastL1BlockSynced fuel (i + client.cfg.ForkIDChunkSize + 1) (logs ++ l)
        | .error cause => some (.error (.error cause))
      else some (.ok logs)

/-- The first half of `GetForks`: at least the genesis block is read. -/
def collectForkLogs (fuel : Nat) (genBlockNumber lastL1BlockSynced : U64) : Option (Except Failure (List Log)) :=
  let lastL1BlockSynced := if lastL1BlockSynced < genBlockNumber then genBlockNumber else lastL1BlockSynced
  client.filterForkLogs lastL1BlockSynced fuel genBlockNumber []

/-- The switch of `GetForks` on one log: the `zkevmVersion` it builds, or `none` where it
continues past another rollup's event. A topic outside the four leaves the zero value. -/
def forkOfLog (l : Log) : Except Failure (Option OldpolygonzkevmUpdateZkEVMVersion) := do
  match ← l.topic0 with
  | .updateZkEVMVersion => some <$> liftError (client.OldZkEVM.ParseUpdateZkEVMVersion l)
  | .updateRollup => do
      let event ← liftError (client.RollupManager.ParseUpdateRollup l)
      if client.RollupID ≠ event.RollupID then pure none
      else do
        let rollupType ← liftError (client.RollupManager.RollupTypeMap event.NewRollupTypeID)
        pure (some { ForkID := rollupType.ForkID, NumBatch := event.LastVerifiedBatchBeforeUpgrade })
  | .addExistingRollup => do
      let event ← liftError (client.RollupManager.ParseAddExistingRollup l)
      if client.RollupID ≠ event.RollupID then pure none
      else pure (some { ForkID := event.ForkID, NumBatch := event.LastVerifiedBatchBeforeUpgrade })
  | .createNewRollup => do
      let event ← liftError (client.RollupManager.ParseCreateNewRollup l)
      if client.RollupID ≠ event.RollupID then pure none
      else do
        let rollupType ← liftError (client.RollupManager.RollupTypeMap event.RollupTypeID)
        pure (some { ForkID := rollupType.ForkID, NumBatch := 0 })
  | _ => pure (some {})

/-- The stitching loop of `GetForks` over the logs from index `i`: a retained log closes the
last interval at its batch, unless it has index 0, and opens a new one. -/
def stitchForks : Nat → List ForkIDInterval → List Log → Except Failure (List ForkIDInterval)
  | _, forks, [] => .ok forks
  | i, forks, l :: logs => do
      match ← client.forkOfLog l with
      | none => stitchForks (i + 1) forks logs
      | some zkevmVersion =>
          let forks ← if i = 0 then pure forks else setLastToBatchNumber forks zkevmVersion.NumBatch
          stitchForks (i + 1) (forks ++ [openFork zkevmVersion l.BlockNumber]) logs

/-- `GetForks`. -/
def getForks (fuel : Nat) (genBlockNumber lastL1BlockSynced : U64) :
    Option (Except Failure (List ForkIDInterval)) :=
  (client.collectForkLogs fuel genBlockNumber lastL1BlockSynced).map (· >>= client.stitchForks 0 [])

/-- Modelled from the spec: the retained events of `logs` in log order, normalised, with their
block numbers. -/
def retainedForks : List Log → Except Failure (List (OldpolygonzkevmUpdateZkEVMVersion × U64))
  | [] => .ok []
  | l :: logs => do
      match ← client.forkOfLog l with
      | none => retainedForks logs
      | some zkevmVersion => ((zkevmVersion, l.BlockNumber) :: ·) <$> retainedForks logs

/-! ### The chunk loop -/

/-- When `i + ForkIDChunkSize + 1` wraps back to `i`, or every block number is at most
`lastL1BlockSynced`, the loop never leaves its condition: with `FilterLogs` answering, no fuel
ends it. -/
theorem filterForkLogs_runs {lastL1BlockSynced : U64}
    (wraps : client.cfg.ForkIDChunkSize = maxUint64 ∨ lastL1BlockSynced = maxUint64)
    (answered : ∀ query, ∃ logs, client.EthClient.FilterLogs query = .ok logs) (fuel : Nat) :
    ∀ i logs, i ≤ lastL1BlockSynced → client.filterForkLogs lastL1BlockSynced fuel i logs = none := by
  induction fuel with
  | zero =>
      intro i logs inRange
      simp [filterForkLogs, inRange]
  | succ fuel inductionHypothesis =>
      intro i logs inRange
      have stays : i + client.cfg.ForkIDChunkSize + 1 ≤ lastL1BlockSynced := by
        rcases wraps with unchunked | unbounded
        · rwa [unchunked, add_maxUint64_add_one]
        · exact unbounded ▸ le_maxUint64 _
      simp only [filterForkLogs, if_pos inRange]
      split
      · exact inductionHypothesis _ _ stays
      · next cause failed =>
          obtain ⟨chunk, answer⟩ := answered _
          rw [answer] at failed
          cases failed

/-- A chunk's logs go in front of the logs of the chunks after it. -/
theorem collected_cons (logs chunk : List Log) (rest : Except Error (List (List Log))) :
    (fun chunks => logs ++ chunks.flatten) <$> liftError (rest >>= fun tail => pure (chunk :: tail)) =
      (fun chunks => (logs ++ chunk) ++ chunks.flatten) <$> liftError rest := by
  cases rest <;> simp

/-- Past `lastL1BlockSynced` the loop stops with the logs it has. -/
theorem filterForkLogs_of_lt {lastL1BlockSynced i : U64} (beyond : lastL1BlockSynced < i) (fuel : Nat)
    (logs : List Log) : client.filterForkLogs lastL1BlockSynced fuel i logs = some (.ok logs) := by
  cases fuel <;> simp [filterForkLogs, BitVec.not_le.2 beyond]

/-- Without a wrap, the chunk end `GetForks` computes is `min (i + ForkIDChunkSize) lastL1BlockSynced`. -/
theorem toNat_chunkEnd {i chunkSize last : U64} (noWrap : last.toNat + chunkSize.toNat + 1 < 2 ^ 64)
    (inRange : i ≤ last) :
    (if i + chunkSize > last then last else i + chunkSize).toNat = min (i.toNat + chunkSize.toNat) last.toNat := by
  rw [BitVec.le_def] at inRange
  have noCarry : (i + chunkSize).toNat = i.toNat + chunkSize.toNat := by
    rw [BitVec.toNat_add, Nat.mod_eq_of_lt (by omega)]
  split
  · next beyond =>
      rw [gt_iff_lt, BitVec.lt_def, noCarry] at beyond
      omega
  · next within =>
      rw [gt_iff_lt, BitVec.lt_def, noCarry] at within
      rw [noCarry]
      omega

/-- Without a wrap, the loop from `i` runs the queries of the spec's chunks in order and
appends their logs, given one round of fuel per block left. -/
theorem filterForkLogs_chunks {lastL1BlockSynced : U64}
    (noWrap : lastL1BlockSynced.toNat + client.cfg.ForkIDChunkSize.toNat + 1 < 2 ^ 64) (fuel : Nat) :
    ∀ i logs, lastL1BlockSynced.toNat + 1 - i.toNat ≤ fuel →
      client.filterForkLogs lastL1BlockSynced fuel i logs =
        some ((fun chunks => logs ++ chunks.flatten) <$> liftError
          ((chunkRanges client.cfg.ForkIDChunkSize.toNat lastL1BlockSynced.toNat i.toNat).mapM fun range =>
            client.EthClient.FilterLogs (client.forkQuery (BitVec.ofNat 64 range.1) (BitVec.ofNat 64 range.2)))) := by
  induction fuel with
  | zero =>
      intro i logs enough
      have beyond : lastL1BlockSynced < i := BitVec.lt_def.2 (by omega)
      rw [client.filterForkLogs_of_lt beyond, chunkRanges_of_lt (BitVec.lt_def.1 beyond), List.mapM_nil]
      simp
  | succ fuel inductionHypothesis =>
      intro i logs enough
      by_cases inRange : i ≤ lastL1BlockSynced
      · have inRangeNat := BitVec.le_def.1 inRange
        have start : BitVec.ofNat 64 i.toNat = i := by simp
        have final : BitVec.ofNat 64 (min (i.toNat + client.cfg.ForkIDChunkSize.toNat) lastL1BlockSynced.toNat) =
            if i + client.cfg.ForkIDChunkSize > lastL1BlockSynced then lastL1BlockSynced
            else i + client.cfg.ForkIDChunkSize := by
          apply BitVec.eq_of_toNat_eq
          rw [toNat_chunkEnd noWrap inRange, BitVec.toNat_ofNat, Nat.mod_eq_of_lt (by omega)]
        have next : (i + client.cfg.ForkIDChunkSize + 1).toNat = i.toNat + client.cfg.ForkIDChunkSize.toNat + 1 := by
          have one : (1 : U64).toNat = 1 := rfl
          simp only [BitVec.toNat_add, one]
          omega
        rw [chunkRanges, if_pos inRangeNat, List.mapM_cons]
        simp only [filterForkLogs, if_pos inRange, start, final]
        split
        · next chunk answer =>
            rw [inductionHypothesis _ _ (by omega), next, answer, ok_bind, collected_cons]
        · next cause failed =>
            rw [failed]
            rfl
      · have beyond := BitVec.not_le.1 inRange
        rw [client.filterForkLogs_of_lt beyond, chunkRanges_of_lt (BitVec.lt_def.1 beyond), List.mapM_nil]
        simp

/-- Without a wrap, `GetForks` reads `[genBlockNumber, max genBlockNumber lastL1BlockSynced]` once:
it queries the spec's chunks in order and collects their logs in order, and those chunks cover the
range block after block, each nonempty and at most `ForkIDChunkSize + 1` blocks long. -/
theorem collectForkLogs_chunks {fuel : Nat} {genBlockNumber lastL1BlockSynced : U64}
    (noWrap : max genBlockNumber.toNat lastL1BlockSynced.toNat + client.cfg.ForkIDChunkSize.toNat + 1 < 2 ^ 64)
    (enough : max genBlockNumber.toNat lastL1BlockSynced.toNat + 1 - genBlockNumber.toNat ≤ fuel) :
    client.collectForkLogs fuel genBlockNumber lastL1BlockSynced =
        some (List.flatten <$> liftError
          ((chunkRanges client.cfg.ForkIDChunkSize.toNat (max genBlockNumber.toNat lastL1BlockSynced.toNat)
            genBlockNumber.toNat).mapM fun range =>
              client.EthClient.FilterLogs (client.forkQuery (BitVec.ofNat 64 range.1) (BitVec.ofNat 64 range.2)))) ∧
      (chunkRanges client.cfg.ForkIDChunkSize.toNat (max genBlockNumber.toNat lastL1BlockSynced.toNat)
          genBlockNumber.toNat).flatMap (fun range => List.range' range.1 (range.2 + 1 - range.1)) =
        List.range' genBlockNumber.toNat (max genBlockNumber.toNat lastL1BlockSynced.toNat + 1 - genBlockNumber.toNat) ∧
      ∀ range ∈ chunkRanges client.cfg.ForkIDChunkSize.toNat (max genBlockNumber.toNat lastL1BlockSynced.toNat)
          genBlockNumber.toNat, range.1 ≤ range.2 ∧ range.2 ≤ range.1 + client.cfg.ForkIDChunkSize.toNat := by
  have raised : (if lastL1BlockSynced < genBlockNumber then genBlockNumber else lastL1BlockSynced).toNat =
      max genBlockNumber.toNat lastL1BlockSynced.toNat := by
    split <;> rename_i below <;> simp only [BitVec.lt_def] at below <;> omega
  refine ⟨?_, chunkRanges_cover _ _ _, chunkRanges_bounded _ _ _⟩
  unfold collectForkLogs
  rw [client.filterForkLogs_chunks (by rwa [raised]) fuel _ [] (by rwa [raised]), raised]
  simp only [List.nil_append]

/-- Blocks 0 to 25 in chunks of 10 blocks. -/
theorem collectForkLogs_three_chunks :
    (forkClient [] 9).collectForkLogs 26 0 25 =
        some (List.flatten <$> liftError ((chunkRanges 9 25 0).mapM fun range =>
          (forkClient [] 9).EthClient.FilterLogs
            ((forkClient [] 9).forkQuery (BitVec.ofNat 64 range.1) (BitVec.ofNat 64 range.2)))) ∧
      (chunkRanges 9 25 0).flatMap (fun range => List.range' range.1 (range.2 + 1 - range.1)) =
        List.range' 0 26 ∧
      ∀ range ∈ chunkRanges 9 25 0, range.1 ≤ range.2 ∧ range.2 ≤ range.1 + 9 :=
  collectForkLogs_chunks _ (by decide) (by decide)

theorem getForks_chunk_loop_diverges {lastL1BlockSynced : U64}
    (wraps : client.cfg.ForkIDChunkSize = maxUint64 ∨ lastL1BlockSynced = maxUint64)
    (answered : ∀ query, ∃ logs, client.EthClient.FilterLogs query = .ok logs) (fuel : Nat) (genBlockNumber : U64) :
    client.getForks fuel genBlockNumber lastL1BlockSynced = none := by
  have covers : genBlockNumber ≤ if lastL1BlockSynced < genBlockNumber then genBlockNumber else lastL1BlockSynced := by
    split
    · exact BitVec.le_refl _
    · exact BitVec.not_lt.1 ‹_›
  have stillWraps : client.cfg.ForkIDChunkSize = maxUint64 ∨
      (if lastL1BlockSynced < genBlockNumber then genBlockNumber else lastL1BlockSynced) = maxUint64 := by
    rcases wraps with unchunked | unbounded
    · exact .inl unchunked
    · exact .inr (by rw [unbounded, if_neg (BitVec.not_lt.2 (le_maxUint64 _))])
  simp only [getForks, collectForkLogs, client.filterForkLogs_runs stillWraps answered fuel _ [] covers,
    Option.map_none']

/-- With `ForkIDChunkSize = MaxUint64` the loop queries the genesis block forever. -/
theorem getForks_unchunked_genesis : (forkClient [] maxUint64).getForks 64 0 0 = none :=
  getForks_chunk_loop_diverges _ (.inl rfl) (fun _ => ⟨_, rfl⟩) 64 0

/-! ### The stitching loop -/

/-- Logs the switch skips leave the stitching where it was, one index further on. -/
theorem stitchForks_skipped (forks : List ForkIDInterval) (skipped rest : List Log)
    (allSkipped : ∀ l ∈ skipped, client.forkOfLog l = .ok none) (i : Nat) :
    client.stitchForks i forks (skipped ++ rest) = client.stitchForks (i + skipped.length) forks rest := by
  induction skipped generalizing i with
  | nil => rfl
  | cons l skipped inductionHypothesis =>
      have skip := allSkipped l (List.mem_cons_self _ _)
      simp only [List.cons_append, stitchForks, skip, ok_bind, List.append_eq]
      rw [inductionHypothesis (fun l mem => allSkipped l (List.mem_cons_of_mem _ mem)), List.length_cons]
      congr 1
      omega

/-- Once an interval is open, each retained event closes the last interval at its batch and
opens its own: the loop computes the spec's intervals of the events. -/
theorem stitchForks_open (done : List ForkIDInterval) (event : OldpolygonzkevmUpdateZkEVMVersion × U64)
    (logs : List Log) (i : Nat) :
    client.stitchForks (i + 1) (done ++ [openFork event.1 event.2]) logs =
      (fun retained => done ++ forkIntervals (event :: retained)) <$> client.retainedForks logs := by
  induction logs generalizing done event i with
  | nil => rfl
  | cons l logs inductionHypothesis =>
      cases normalized : client.forkOfLog l with
      | error failure => simp [stitchForks, retainedForks, normalized]
      | ok zkevmVersion? =>
          cases zkevmVersion? with
          | none =>
              simp only [stitchForks, retainedForks, normalized, ok_bind]
              exact inductionHypothesis done event (i + 1)
          | some zkevmVersion =>
              have closed : setLastToBatchNumber (done ++ [openFork event.1 event.2]) zkevmVersion.NumBatch =
                  .ok (done ++ [{ openFork event.1 event.2 with ToBatchNumber := zkevmVersion.NumBatch }]) := by
                simp [setLastToBatchNumber, List.modifyLast_append_one]
              simp only [stitchForks, retainedForks, normalized, ok_bind, Nat.add_one_ne_zero, if_false, closed,
                inductionHypothesis _ (zkevmVersion, l.BlockNumber), Functor.map_map]
              simp [forkIntervals_cons_cons]

/-- When the first log is retained, the stitching returns the spec's intervals of the retained
events. -/
theorem stitchForks_first_retained {first : Log} {zkevmVersion : OldpolygonzkevmUpdateZkEVMVersion}
    (retained : client.forkOfLog first = .ok (some zkevmVersion)) (logs : List Log) :
    client.stitchForks 0 [] (first :: logs) = forkIntervals <$> client.retainedForks (first :: logs) := by
  simp only [stitchForks, retainedForks, retained, ok_bind, if_true, Functor.map_map]
  exact stitchForks_open client [] (zkevmVersion, first.BlockNumber) logs 0

theorem getForks_intervals {fuel : Nat} {genBlockNumber lastL1BlockSynced : U64} {first : Log} {logs : List Log}
    {zkevmVersion : OldpolygonzkevmUpdateZkEVMVersion}
    (collected : client.collectForkLogs fuel genBlockNumber lastL1BlockSynced = some (.ok (first :: logs)))
    (retained : client.forkOfLog first = .ok (some zkevmVersion)) :
    client.getForks fuel genBlockNumber lastL1BlockSynced =
      some (forkIntervals <$> client.retainedForks (first :: logs)) := by
  simp only [getForks, collected, Option.map_some', ok_bind, client.stitchForks_first_retained retained]

/-- A version update, an update of rollup 1 to type 2 and another rollup's creation. -/
theorem getForks_two_retained :
    (forkClient [forkLog .updateZkEVMVersion 1 0 1, forkLog .updateRollup 1 4 2, forkLog .createNewRollup 2 0 3]
        10).getForks 2 0 5 =
      some (forkIntervals <$> (forkClient [forkLog .updateZkEVMVersion 1 0 1, forkLog .updateRollup 1 4 2,
        forkLog .createNewRollup 2 0 3] 10).retainedForks
          [forkLog .updateZkEVMVersion 1 0 1, forkLog .updateRollup 1 4 2, forkLog .createNewRollup 2 0 3]) :=
  getForks_intervals _ rfl rfl

example :
    (forkClient [forkLog .updateZkEVMVersion 1 0 1, forkLog .updateRollup 1 4 2, forkLog .createNewRollup 2 0 3]
        10).getForks 2 0 5 =
      some (.ok [⟨1, 4, 6, "v6", 1⟩, ⟨5, maxUint64, 12, "", 2⟩]) :=
  rfl

theorem getForks_panics_after_skipped_logs {fuel : Nat} {genBlockNumber lastL1BlockSynced : U64}
    {skipped : List Log} {next : Log} {logs : List Log} {zkevmVersion : OldpolygonzkevmUpdateZkEVMVersion}
    (collected : client.collectForkLogs fuel genBlockNumber lastL1BlockSynced = some (.ok (skipped ++ next :: logs)))
    (nonempty : skipped ≠ []) (allSkipped : ∀ l ∈ skipped, client.forkOfLog l = .ok none)
    (retained : client.forkOfLog next = .ok (some zkevmVersion)) :
    client.getForks fuel genBlockNumber lastL1BlockSynced = some (.error (.panic .indexOutOfRange)) := by
  have later : 0 + skipped.length ≠ 0 := by simpa [List.length_eq_zero] using nonempty
  simp only [getForks, collected, Option.map_some', ok_bind, client.stitchForks_skipped [] skipped _ allSkipped,
    stitchForks, retained, later, if_false, setLastToBatchNumber, List.isEmpty_nil, if_true, error_bind]

/-- Another rollup's update is the first log, a version update of ours the second. -/
theorem getForks_other_rollup_first :
    (forkClient [forkLog .updateRollup 2 4 1, forkLog .updateZkEVMVersion 1 9 2] 10).getForks 2 0 0 =
      some (.error (.panic .indexOutOfRange)) :=
  @getForks_panics_after_skipped_logs _ 2 0 0 [forkLog .updateRollup 2 4 1] (forkLog .updateZkEVMVersion 1 9 2) []
    _ rfl (List.cons_ne_nil _ _) (fun l mem => by rw [List.mem_singleton.1 mem]; rfl) rfl

/-! ### The two normalisations of a fork event -/

/-- With the log's block on L1, `updateForkId` adds the fork record to the log's block, or
drops the event of another rollup. -/
theorem updateForkId_answered {vLog : Log}
    (answered : ∃ fullBlock, client.EthClient.BlockByHash vLog.BlockHash = .ok fullBlock) (acc : Accumulators)
    (batchNum forkID : U64) (version : String) (affectedRollupID : U32) :
    client.updateForkId vLog acc batchNum forkID version affectedRollupID =
      .ok (if client.RollupID ≠ affectedRollupID then acc
        else acc.addEntry client.header vLog.key (.forkID ⟨batchNum, forkID, version⟩)) := by
  obtain ⟨fullBlock, answer⟩ := answered
  have fetched : client.retrieveFullBlockForEvent vLog = .ok (freshAt client.header vLog.key) := by
    rw [← client.prepareBlock_header, client.header_of_ok answer]
    simp [retrieveFullBlockForEvent, fetchFullBlock, answer]
  unfold updateForkId
  by_cases other : client.RollupID ≠ affectedRollupID
  · rw [if_pos other, if_pos other]
    rfl
  · rw [if_neg other, if_neg other, fetched, addToBlocks_fresh]

theorem processEvent_agrees_with_getForks {vLog : Log} (acc : Accumulators)
    (forkDefining : vLog.topic0 = .ok .updateZkEVMVersion ∨ vLog.topic0 = .ok .updateRollup ∨
      vLog.topic0 = .ok .addExistingRollup ∨ vLog.topic0 = .ok .createNewRollup)
    (typed : ∀ rollupTypeID, ∃ rollupType, client.RollupManager.RollupTypeMap rollupTypeID = .ok rollupType)
    (answered : ∃ fullBlock, client.EthClient.BlockByHash vLog.BlockHash = .ok fullBlock) :
    client.processEvent vLog acc =
      (fun zkevmVersion? => zkevmVersion?.elim acc fun zkevmVersion => acc.addEntry client.header vLog.key
        (.forkID ⟨zkevmVersion.NumBatch, zkevmVersion.ForkID, zkevmVersion.Version⟩)) <$> client.forkOfLog vLog := by
  have update := client.updateForkId_answered answered acc
  rcases forkDefining with topic | topic | topic | topic <;> simp only [processEvent, forkOfLog, topic, ok_bind]
  -- `UpdateZkEVMVersion`: neither side checks the rollup.
  · cases parsed : client.OldZkEVM.ParseUpdateZkEVMVersion vLog <;>
      simp [updateZkevmVersion, parsed, update]
  -- `UpdateRollup`: `processEvent` reads the rollup type before the rollup check, `GetForks` after.
  · cases parsed : client.RollupManager.ParseUpdateRollup vLog with
    | error cause => simp [updateRollup, parsed]
    | ok event =>
        obtain ⟨rollupType, typeOk⟩ := typed event.NewRollupTypeID
        by_cases same : client.RollupID = event.RollupID <;>
          simp [updateRollup, parsed, typeOk, update, same]
  -- `AddExistingRollup`: the fork comes with the event.
  · cases parsed : client.RollupManager.ParseAddExistingRollup vLog with
    | error cause => simp [addExistingRollup, parsed]
    | ok event =>
        by_cases same : client.RollupID = event.RollupID <;>
          simp [addExistingRollup, parsed, update, same]
  -- `CreateNewRollup`: as `UpdateRollup`, from batch 0.
  · cases parsed : client.RollupManager.ParseCreateNewRollup vLog with
    | error cause => simp [createNewRollup, parsed]
    | ok event =>
        obtain ⟨rollupType, typeOk⟩ := typed event.RollupTypeID
        by_cases same : client.RollupID = event.RollupID <;>
          simp [createNewRollup, parsed, typeOk, update, same]

/-- An update of rollup 1 to rollup type 2, whose fork is 12. -/
theorem processEvent_agrees_on_update_rollup :
    (forkClient [] 10).processEvent (forkLog .updateRollup 1 4 1) .empty =
      (fun zkevmVersion? => zkevmVersion?.elim Accumulators.empty fun zkevmVersion =>
        Accumulators.empty.addEntry (forkClient [] 10).header (forkLog .updateRollup 1 4 1).key
          (.forkID ⟨zkevmVersion.NumBatch, zkevmVersion.ForkID, zkevmVersion.Version⟩)) <$>
        (forkClient [] 10).forkOfLog (forkLog .updateRollup 1 4 1) :=
  processEvent_agrees_with_getForks _ _ (.inr (.inl rfl)) (fun _ => ⟨_, rfl⟩) ⟨_, rfl⟩

example : (forkClient [] 10).forkOfLog (forkLog .updateRollup 1 4 1) = .ok (some ⟨4, 12, ""⟩) :=
  rfl

/-- The client of rollup 1 of `forkClient` whose rollup manager answers no rollup type. -/
def untypedForkClient : Client :=
  { forkClient [] 10 with
    RollupManager := { (forkClient [] 10).RollupManager with RollupTypeMap := fun _ => .error (.rpc "no rollup type") } }

/-- Without a rollup type, rollup 2's `UpdateRollup` and `CreateNewRollup` make `processEvent` of a
client of rollup 1 fail, since it reads the rollup type before the rollup id, while `GetForks`
checks the rollup id first and skips them. -/
theorem processEvent_fails_where_getForks_skips :
    untypedForkClient.processEvent (forkLog .updateRollup 2 4 1) .empty = .error (.error (.rpc "no rollup type")) ∧
      untypedForkClient.forkOfLog (forkLog .updateRollup 2 4 1) = .ok none ∧
      untypedForkClient.processEvent (forkLog .createNewRollup 2 0 1) .empty =
        .error (.error (.rpc "no rollup type")) ∧
      untypedForkClient.forkOfLog (forkLog .createNewRollup 2 0 1) = .ok none :=
  ⟨rfl, rfl, rfl, rfl⟩

/-! ### The genesis block -/

/-- `VerifyGenBlockNumber` accepts a genesis block whose first log creates a rollup, whichever
rollup it creates. -/
theorem verifyGenBlockNumber_accepts_created_rollup {genBlockNumber : U64} {first : Log} {logs : List Log}
    {event : PolygonrollupmanagerCreateNewRollup} {rollupType : RollupType}
    (filtered : client.EthClient.FilterLogs (client.genesisQuery genBlockNumber) = .ok (first :: logs))
    (created : first.topic0 = .ok .createNewRollup)
    (parsed : client.RollupManager.ParseCreateNewRollup first = .ok event)
    (typed : client.RollupManager.RollupTypeMap event.RollupTypeID = .ok rollupType) :
    client.verifyGenBlockNumber genBlockNumber = .ok true := by
  simp [verifyGenBlockNumber, filtered, created, parsed, typed]

/-- The genesis block of rollup 2 passes for a client of rollup 1. -/
theorem verifyGenBlockNumber_other_rollup :
    (forkClient [forkLog .createNewRollup 2 0 1] 10).RollupID ≠ 2 ∧
      (forkClient [forkLog .createNewRollup 2 0 1] 10).verifyGenBlockNumber 1 = .ok true :=
  ⟨by decide, verifyGenBlockNumber_accepts_created_rollup _ rfl rfl rfl rfl⟩

end Client

end SynchronizerL1.Etherman
