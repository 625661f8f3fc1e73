import SynchronizerL1.Etherman.Client

/-!
The calldata decoders of `etherman.go`, which number the decoded batches down from the event's
`numBatch`.
-/

namespace SynchronizerL1.Etherman

/-- The `for i, seq := range sequences` loop both decoders share: item `i` of `count` gets
`lastBatchNumber - uint64(count-(i+1))`. -/
def numberBatches {Item Record : Type} (build : U64 → Item → Record) (lastBatchNumber : U64)
    (count : Nat) : Nat → List Item → List Record
  | _, [] => []
  | i, seq :: rest =>
      build (lastBatchNumber - BitVec.ofNat 64 (count - (i + 1))) seq ::
        numberBatches build lastBatchNumber count (i + 1) rest

/-- The selector lookup, argument unpacking and `data[0]` JSON round trip of both decoders. -/
def unpackBatches {Item : Type} (abi : Abi Item) (txData : List UInt8) :
    Except Failure (List Item × List (AbiValue Item)) := do
  let methodId ← sliceTo txData 4
  let method ← liftError (abi.MethodById methodId)
  let data ← liftError (method.Unpack (txData.drop 4))
  let first ← indexAbi data 0
  let sequences ← first.unmarshal
  pure (sequences, data)

/-- `decodeSequencesPreEtrog`: pre-Etrog batches, with the coinbase taken from `data[1]`. -/
def decodeSequencesPreEtrog (abi : Abi PolygonZkEVMBatchData) (txData : List UInt8)
    (lastBatchNumber : U64) (sequencer : Address) (txHash : Hash) (nonce : U64) :
    Except Failure (List SequencedBatch) := do
  let (sequences, data) ← unpackBatches abi txData
  let coinbase ← match ← indexAbi data 1 with
    | .address coinbase => pure coinbase
    | _ => throw (.panic .typeAssertion)
  pure (numberBatches (fun bn seq =>
    { BatchNumber := bn, SequencerAddr := sequencer, TxHash := txHash, Nonce := nonce,
      Coinbase := coinbase, PolygonZkEVMBatchData := some seq,
      PolygonRollupBaseEtrogBatchData := none }) lastBatchNumber sequences.length 0 sequences)

/-- `decodeSequencedForceBatches`: the forced batches of a `sequenceForceBatches` call. -/
def decodeSequencedForceBatches (abi : Abi PolygonRollupBaseEtrogBatchData) (txData : List UInt8)
    (lastBatchNumber : U64) (sequencer : Address) (txHash : Hash) (block : FullBlock)
    (nonce : U64) : Except Failure (List SequencedForceBatch) := do
  let (forceBatches, _) ← unpackBatches abi txData
  pure (numberBatches (fun bn force =>
    { BatchNumber := bn, Coinbase := sequencer, TxHash := txHash, Timestamp := block.Time,
      Nonce := nonce, PolygonRollupBaseEtrogBatchData := force })
    lastBatchNumber forceBatches.length 0 forceBatches)

/-- `Client.decodeSequenceBatches`: the first decoder matching the selector decodes. -/
def Client.decodeSequenceBatches (client : Client) (txData : List UInt8) (lastBatchNumber : U64)
    (sequencer : Address) (txHash : Hash) (nonce : U64) (l1InfoRoot : Hash) :
    Except Failure (List SequencedBatch) := do
  let methodId ← sliceTo txData 4
  match client.SequenceBatchesDecoders.find? (·.MatchMethodId methodId) with
  | some decoder =>
      liftError (decoder.DecodeSequenceBatches txData lastBatchNumber sequencer txHash nonce l1InfoRoot)
  | none => throw (.error (.methodIdUnknown methodId))

section Numbering

variable {Item Record : Type} (build : U64 → Item → Record) (lastBatchNumber : U64) (count : Nat)

@[simp] theorem numberBatches_length (i : Nat) (items : List Item) :
    (numberBatches build lastBatchNumber count i items).length = items.length := by
  induction items generalizing i with
  | nil => rfl
  | cons seq rest inductionHypothesis => simp [numberBatches, inductionHypothesis]

/-- The loop writes slot `j` from item `j`, numbered by its absolute index `i + j`. -/
theorem getElem_numberBatches (i : Nat) (items : List Item) (j : Nat) (inRange : j < items.length) :
    (numberBatches build lastBatchNumber count i items).get ⟨j, by simpa using inRange⟩ =
      build (lastBatchNumber - BitVec.ofNat 64 (count - (i + j + 1))) items[j] := by
  induction items generalizing i j with
  | nil => simp at inRange
  | cons seq rest inductionHypothesis =>
      cases j with
      | zero => simp [numberBatches]
      | succ j =>
          have tail := inductionHypothesis (i + 1) j (by simpa using inRange)
          simp only [List.get_eq_getElem] at tail ⊢
          simp only [numberBatches, List.getElem_cons_succ, tail]
          congr 3
          omega

end Numbering

/-- With `count ≤ N + 1` the number `N - (count - 1 - j)` does not wrap around. -/
theorem toNat_batchNumber {lastBatchNumber : U64} {count j : Nat}
    (enough : count ≤ lastBatchNumber.toNat + 1) (inRange : j < count) :
    (lastBatchNumber - BitVec.ofNat 64 (count - (j + 1))).toNat =
      lastBatchNumber.toNat - (count - 1 - j) := by
  have small : count - (j + 1) < 2 ^ 64 := by
    have := lastBatchNumber.isLt
    omega
  rw [BitVec.toNat_sub_of_le] <;> simp [BitVec.le_def, Nat.mod_eq_of_lt small] <;> omega

theorem decodeSequencesPreEtrog_eq {abi : Abi PolygonZkEVMBatchData} {txData : List UInt8}
    {items : List PolygonZkEVMBatchData} {data : List (AbiValue PolygonZkEVMBatchData)}
    {coinbase : Address} (unpacked : unpackBatches abi txData = .ok (items, data))
    (second : data[1]? = some (.address coinbase)) (lastBatchNumber : U64) (sequencer : Address)
    (txHash : Hash) (nonce : U64) :
    decodeSequencesPreEtrog abi txData lastBatchNumber sequencer txHash nonce =
      .ok (numberBatches (fun bn seq =>
        { BatchNumber := bn, SequencerAddr := sequencer, TxHash := txHash, Nonce := nonce,
          Coinbase := coinbase, PolygonZkEVMBatchData := some seq,
          PolygonRollupBaseEtrogBatchData := none }) lastBatchNumber items.length 0 items) := by
  simp [decodeSequencesPreEtrog, unpacked, indexAbi, second, bind, Except.bind, pure, Except.pure]

theorem decodeSequencedForceBatches_eq {abi : Abi PolygonRollupBaseEtrogBatchData}
    {txData : List UInt8} {items : List PolygonRollupBaseEtrogBatchData}
    {data : List (AbiValue PolygonRollupBaseEtrogBatchData)}
    (unpacked : unpackBatches abi txData = .ok (items, data)) (lastBatchNumber : U64)
    (sequencer : Address) (txHash : Hash) (block : FullBlock) (nonce : U64) :
    decodeSequencedForceBatches abi txData lastBatchNumber sequencer txHash block nonce =
      .ok (numberBatches (fun bn force =>
        { BatchNumber := bn, Coinbase := sequencer, TxHash := txHash, Timestamp := block.Time,
          Nonce := nonce, PolygonRollupBaseEtrogBatchData := force })
        lastBatchNumber items.length 0 items) := by
  simp [decodeSequencedForceBatches, unpacked, bind, Except.bind, pure, Except.pure]

/-- Both decoders written in the package turn `k` decoded batches into `k` records numbered
`N - k + 1, ..., N` without wrapping, each stamped with the transaction's hash, nonce and sender. -/
theorem decoders_number_batches_contiguously :
    (∀ (abi : Abi PolygonZkEVMBatchData) (txData : List UInt8) (items : List PolygonZkEVMBatchData)
        (data : List (AbiValue PolygonZkEVMBatchData)) (coinbase : Address) (lastBatchNumber : U64)
        (sequencer : Address) (txHash : Hash) (nonce : U64),
        unpackBatches abi txData = .ok (items, data) → data[1]? = some (.address coinbase) →
        items.length ≤ lastBatchNumber.toNat + 1 →
        ∃ out, decodeSequencesPreEtrog abi txData lastBatchNumber sequencer txHash nonce = .ok out ∧
          out.length = items.length ∧
          ∀ j (inRange : j < out.length),
            out[j].BatchNumber.toNat = lastBatchNumber.toNat - (items.length - 1 - j) ∧
            out[j].PolygonZkEVMBatchData = items[j]? ∧ out[j].SequencerAddr = sequencer ∧
            out[j].TxHash = txHash ∧ out[j].Nonce = nonce) ∧
    (∀ (abi : Abi PolygonRollupBaseEtrogBatchData) (txData : List UInt8)
        (items : List PolygonRollupBaseEtrogBatchData)
        (data : List (AbiValue PolygonRollupBaseEtrogBatchData)) (lastBatchNumber : U64)
        (sequencer : Address) (txHash : Hash) (block : FullBlock) (nonce : U64),
        unpackBatches abi txData = .ok (items, data) → items.length ≤ lastBatchNumber.toNat + 1 →
        ∃ out, decodeSequencedForceBatches abi txData lastBatchNumber sequencer txHash block nonce =
            .ok out ∧
          out.length = items.length ∧
          ∀ j (inRange : j < out.length),
            out[j].BatchNumber.toNat = lastBatchNumber.toNat - (items.length - 1 - j) ∧
            some out[j].PolygonRollupBaseEtrogBatchData = items[j]? ∧ out[j].Coinbase = sequencer ∧
            out[j].TxHash = txHash ∧ out[j].Nonce = nonce) := by
  constructor
  · intro abi txData items data coinbase lastBatchNumber sequencer txHash nonce unpacked second enough
    refine ⟨_, decodeSequencesPreEtrog_eq unpacked second lastBatchNumber sequencer txHash nonce,
      by simp, fun j inRange => ?_⟩
    have inItems : j < items.length := by simpa using inRange
    have slot := getElem_numberBatches (fun bn seq =>
      ({ BatchNumber := bn, SequencerAddr := sequencer, TxHash := txHash, Nonce := nonce,
         Coinbase := coinbase, PolygonZkEVMBatchData := some seq,
         PolygonRollupBaseEtrogBatchData := none } : SequencedBatch))
      lastBatchNumber items.length 0 items j inItems
    simp only [List.get_eq_getElem, Nat.zero_add] at slot
    simp [slot, toNat_batchNumber enough inItems, inItems]
  · intro abi txData items data lastBatchNumber sequencer txHash block nonce unpacked enough
    refine ⟨_, decodeSequencedForceBatches_eq unpacked lastBatchNumber sequencer txHash block nonce,
      by simp, fun j inRange => ?_⟩
    have inItems : j < items.length := by simpa using inRange
    have slot := getElem_numberBatches (fun bn force =>
      ({ BatchNumber := bn, Coinbase := sequencer, TxHash := txHash, Timestamp := block.Time,
         Nonce := nonce, PolygonRollupBaseEtrogBatchData := force } : SequencedForceBatch))
      lastBatchNumber items.length 0 items j inItems
    simp only [List.get_eq_getElem, Nat.zero_add] at slot
    simp [slot, toNat_batchNumber enough inItems, inItems]

/-- Three pre-Etrog batches reported with `numBatch = 9` are numbered 7, 8 and 9. -/
theorem decoders_number_three_batches :
    ∃ out, decodeSequencesPreEtrog
        ⟨fun _ => .ok ⟨fun _ => .ok [.batches [⟨[], 0, 0, 0⟩, ⟨[1], 0, 0, 0⟩, ⟨[2], 0, 0, 0⟩],
          .address 7]⟩⟩ [1, 2, 3, 4] 9 5 6 1 = .ok out ∧
      out.length = 3 ∧
      ∀ j (inRange : j < out.length),
        out[j].BatchNumber.toNat = 9 - (3 - 1 - j) ∧
        out[j].PolygonZkEVMBatchData = [⟨[], 0, 0, 0⟩, ⟨[1], 0, 0, 0⟩, ⟨[2], 0, 0, 0⟩][j]? ∧
        out[j].SequencerAddr = 5 ∧ out[j].TxHash = 6 ∧ out[j].Nonce = 1 :=
  decoders_number_batches_contiguously.1
    ⟨fun _ => .ok ⟨fun _ => .ok [.batches [⟨[], 0, 0, 0⟩, ⟨[1], 0, 0, 0⟩, ⟨[2], 0, 0, 0⟩],
      .address 7]⟩⟩ [1, 2, 3, 4] [⟨[], 0, 0, 0⟩, ⟨[1], 0, 0, 0⟩, ⟨[2], 0, 0, 0⟩]
    [.batches [⟨[], 0, 0, 0⟩, ⟨[1], 0, 0, 0⟩, ⟨[2], 0, 0, 0⟩], .address 7] 7 9 5 6 1
    rfl rfl (by decide)

end SynchronizerL1.Etherman
