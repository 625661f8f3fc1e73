import SynchronizerL1.Etherman.Events
import Mathlib.Data.List.Destutter
import Mathlib.Data.List.Nodup

/-!
What the Range Reader is for: the bucket fold `bucketRun`, in which every log adds its record to
the bucket of its block and to `blocksOrder`.
-/

namespace SynchronizerL1.Etherman

section Destutter

variable {α : Type} [DecidableEq α]

theorem getLast?_destutter'_ne (a : α) (l : List α) :
    (l.destutter' (· ≠ ·) a).getLast? = (a :: l).getLast? := by
  induction l generalizing a with
  | nil => rfl
  | cons head tail inductionHypothesis =>
      rw [List.destutter'_cons]
      by_cases same : a = head
      · subst same
        simp [inductionHypothesis]
      · rw [if_pos same, List.getLast?_cons_cons, ← inductionHypothesis head]
        cases stuttered : tail.destutter' (· ≠ ·) head with
        | nil => exact absurd stuttered (List.destutter'_ne_nil _ _)
        | cons _ _ => rfl

theorem destutter'_append_singleton_ne (a x : α) (l : List α) :
    (l ++ [x]).destutter' (· ≠ ·) a =
      if (a :: l).getLast? = some x then l.destutter' (· ≠ ·) a
      else l.destutter' (· ≠ ·) a ++ [x] := by
  induction l generalizing a with
  | nil => by_cases same : a = x <;> simp [same]
  | cons head tail inductionHypothesis =>
      rw [List.cons_append, List.destutter'_cons, List.destutter'_cons, List.getLast?_cons_cons]
      by_cases same : a = head
      · subst same
        simp only [ne_eq, not_true_eq_false, ite_false, inductionHypothesis]
      · simp only [ne_eq, same, not_false_eq_true, ite_true, inductionHypothesis]
        split <;> simp

/-- Merging adjacent repeats, one element at a time. -/
theorem destutter_append_singleton_ne (x : α) (l : List α) :
    (l ++ [x]).destutter (· ≠ ·) =
      if l.getLast? = some x then l.destutter (· ≠ ·) else l.destutter (· ≠ ·) ++ [x] := by
  cases l with
  | nil => simp
  | cons head tail => simp [List.destutter_cons', destutter'_append_singleton_ne]

theorem getLast?_destutter_ne (l : List α) : (l.destutter (· ≠ ·)).getLast? = l.getLast? := by
  cases l with
  | nil => rfl
  | cons head tail => rw [List.destutter_cons', getLast?_destutter'_ne]

end Destutter

/-- The hash and number a block is told apart by. -/
def Block.key (block : Block) : Hash × U64 := (block.BlockHash, block.BlockNumber)

/-- The hash and number of the block a log was emitted in. -/
def Log.key (vLog : Log) : Hash × U64 := (vLog.BlockHash, vLog.BlockNumber)

@[simp] theorem Log.fst_key (vLog : Log) : vLog.key.1 = vLog.BlockHash := rfl

theorem isheadBlockInArray_iff {blocks : List Block} {blockHash : Hash} {blockNumber : U64} :
    isheadBlockInArray blocks blockHash blockNumber = true ↔
      ∃ head, blocks.getLast? = some head ∧ head.key = (blockHash, blockNumber) := by
  unfold isheadBlockInArray
  cases blocks.getLast? <;> simp [Block.key]

/-- The logs of each block are contiguous: once the logs leave a block they never return to it. -/
def Contiguous : List Log → Prop
  | [] => True
  | vLog :: rest =>
      (∀ later ∈ rest.dropWhile (·.BlockHash == vLog.BlockHash), later.BlockHash ≠ vLog.BlockHash) ∧
        Contiguous rest

instance decidableContiguous : (logs : List Log) → Decidable (Contiguous logs)
  | [] => isTrue trivial
  | _ :: rest =>
      have := decidableContiguous rest
      inferInstanceAs (Decidable (_ ∧ _))

/-- Logs of one block carry one block number. -/
def SameNumber (logs : List Log) : Prop :=
  ∀ first ∈ logs, ∀ second ∈ logs, first.BlockHash = second.BlockHash →
    first.BlockNumber = second.BlockNumber

instance (logs : List Log) : Decidable (SameNumber logs) :=
  inferInstanceAs (Decidable (∀ _ ∈ logs, ∀ _ ∈ logs, _))

/-- The head check compares the last block's key with the log's. -/
theorem isheadBlockInArray_log (blocks : List Block) (vLog : Log) :
    isheadBlockInArray blocks vLog.BlockHash vLog.BlockNumber =
      decide ((blocks.map Block.key).getLast? = some vLog.key) := by
  unfold isheadBlockInArray
  rw [List.getLast?_map]
  cases blocks.getLast? with
  | none => rfl
  | some head => rw [Bool.eq_iff_iff]; simp [Block.key, Log.key]

/-- The logs of one block are contiguous and carry one block number. -/
structure Grouped (logs : List Log) : Prop where
  contiguous : Contiguous logs
  sameNumber : SameNumber logs

/-- Logs in ascending block order: a later log is of the same block or of a higher block. -/
def Ascending (logs : List Log) : Prop :=
  logs.Pairwise fun earlier later => earlier.key = later.key ∨ earlier.BlockNumber < later.BlockNumber

instance (logs : List Log) : Decidable (Ascending logs) :=
  inferInstanceAs (Decidable (List.Pairwise _ _))

theorem chain'_and {α : Type} {R S : α → α → Prop} :
    ∀ {l : List α}, l.Chain' R → l.Chain' S → l.Chain' fun a b => R a b ∧ S a b
  | [], _, _ => trivial
  | [_], _, _ => List.chain'_singleton _
  | _ :: _ :: _, first, second =>
      List.chain'_cons.2 ⟨⟨(List.chain'_cons.1 first).1, (List.chain'_cons.1 second).1⟩,
        chain'_and (List.chain'_cons.1 first).2 (List.chain'_cons.1 second).2⟩

instance (logs : List Log) : Decidable (Grouped logs) :=
  decidable_of_iff (Contiguous logs ∧ SameNumber logs)
    ⟨fun ⟨contiguous, sameNumber⟩ => ⟨contiguous, sameNumber⟩, fun grouped => ⟨grouped.1, grouped.2⟩⟩

theorem mem_dropWhile_append {p : Log → Bool} {front rest : List Log} {vLog : Log}
    (mem : vLog ∈ front.dropWhile p) : vLog ∈ (front ++ rest).dropWhile p := by
  rw [List.dropWhile_append]
  split
  · rename_i dropped
    simp [List.isEmpty_iff.1 dropped] at mem
  · exact List.mem_append_left _ mem

theorem Contiguous.of_append_left {front rest : List Log} (contiguous : Contiguous (front ++ rest)) :
    Contiguous front := by
  induction front with
  | nil => trivial
  | cons _ _ inductionHypothesis =>
      exact ⟨fun later mem => contiguous.1 later (mem_dropWhile_append mem),
        inductionHypothesis contiguous.2⟩

theorem Contiguous.of_append_right {front rest : List Log} (contiguous : Contiguous (front ++ rest)) :
    Contiguous rest := by
  induction front with
  | nil => exact contiguous
  | cons _ _ inductionHypothesis => exact inductionHypothesis contiguous.2

/-- Between two logs of one block every log is of that block. -/
theorem Contiguous.between {front middle : List Log} {first last : Log}
    (contiguous : Contiguous (front ++ first :: (middle ++ [last])))
    (same : first.BlockHash = last.BlockHash) : ∀ vLog ∈ middle, vLog.BlockHash = last.BlockHash := by
  intro vLog mem
  by_contra other
  have stays : (middle.dropWhile (·.BlockHash == first.BlockHash)).isEmpty = false := by
    simpa [List.dropWhile_eq_nil_iff] using ⟨vLog, mem, same ▸ other⟩
  refine contiguous.of_append_right.1 last ?_ same.symm
  simp [List.dropWhile_append, stays]

theorem Grouped.of_append {front rest : List Log} (grouped : Grouped (front ++ rest)) : Grouped front :=
  ⟨grouped.contiguous.of_append_left,
    fun first firstMem second secondMem => grouped.sameNumber first (List.mem_append_left _ firstMem)
      second (List.mem_append_left _ secondMem)⟩

@[simp] theorem Block.key_push (block : Block) (entry : Entry) : (block.push entry).key = block.key := by
  cases entry <;> rfl

@[simp] theorem Block.BlockHash_push (block : Block) (entry : Entry) :
    (block.push entry).BlockHash = block.BlockHash := by
  cases entry <;> rfl

@[simp] theorem Block.ParentHash_push (block : Block) (entry : Entry) :
    (block.push entry).ParentHash = block.ParentHash := by
  cases entry <;> rfl

@[simp] theorem Block.ReceivedAt_push (block : Block) (entry : Entry) :
    (block.push entry).ReceivedAt = block.ReceivedAt := by
  cases entry <;> rfl

/-- Appends `block` after `front` and records the entry's order under the block's hash. -/
def Accumulators.commit (acc : Accumulators) (front : List Block) (block : Block) (entry : Entry) :
    Accumulators :=
  ⟨front ++ [block], Function.update acc.blocksOrder block.BlockHash
    (acc.blocksOrder block.BlockHash ++ [⟨entry.name, block.position entry⟩])⟩

@[simp] theorem Accumulators.blocks_commit (acc : Accumulators) (front : List Block) (block : Block)
    (entry : Entry) : (acc.commit front block entry).blocks = front ++ [block] := rfl

theorem Accumulators.blocksOrder_commit (acc : Accumulators) (front : List Block) (block : Block)
    (entry : Entry) (blockHash : Hash) :
    (acc.commit front block entry).blocksOrder blockHash =
      if blockHash = block.BlockHash then acc.blocksOrder blockHash ++ [⟨entry.name, block.position entry⟩]
      else acc.blocksOrder blockHash := by
  unfold commit
  by_cases same : blockHash = block.BlockHash
  · subst same
    simp
  · simp [Function.update_noteq same, same]

/-- The records pushed one by one onto a block, with the order entry each push records. -/
def trail (start : Block) (records : List Entry) : Block × List Order :=
  records.foldl (fun state entry =>
    (state.1.push entry, state.2 ++ [⟨entry.name, (state.1.push entry).position entry⟩])) (start, [])

theorem trail_append_singleton (start : Block) (records : List Entry) (entry : Entry) :
    trail start (records ++ [entry]) =
      ((trail start records).1.push entry,
        (trail start records).2 ++ [⟨entry.name, ((trail start records).1.push entry).position entry⟩]) := by
  simp [trail]

theorem key_ne_of_mem_dropLast {blocks : List Block} {head block : Block}
    (nodup : (blocks.map Block.key).Nodup) (last : blocks.getLast? = some head)
    (mem : block ∈ blocks.dropLast) : block.key ≠ head.key := by
  rw [← List.dropLast_append_getLast? head last, List.map_append, List.nodup_append] at nodup
  exact fun same => nodup.2.2 (List.mem_map_of_mem _ mem) (by simp [same])

/-- The record an order entry points to in a block: `Pos` indexes the array `Name` names, and the
Etrog sequence update is the block's single slot. -/
def Block.resolve (block : Block) (order : Order) : Option Entry :=
  match order.Name with
  | .SequenceBatchesOrder => (block.SequencedBatches[order.Pos]?).map .sequenceBatches
  | .InitialSequenceBatchesOrder => (block.SequencedBatches[order.Pos]?).map .initialSequenceBatches
  | .SequenceForceBatchesOrder => (block.SequencedForceBatches[order.Pos]?).map .sequenceForceBatches
  | .ForcedBatchesOrder => (block.ForcedBatches[order.Pos]?).map .forcedBatch
  | .GlobalExitRootsOrder => (block.GlobalExitRoots[order.Pos]?).map .globalExitRoot
  | .L1InfoTreeOrder => (block.L1InfoTree[order.Pos]?).map .l1InfoTree
  | .TrustedVerifyBatchOrder => (block.VerifiedBatches[order.Pos]?).map (.verifiedBatch · .TrustedVerifyBatchOrder)
  | .VerifyBatchOrder => (block.VerifiedBatches[order.Pos]?).map (.verifiedBatch · .VerifyBatchOrder)
  | .ForkIDsOrder => (block.ForkIDs[order.Pos]?).map .forkID
  | .UpdateEtrogSequenceOrder =>
      if order.Pos = 0 then block.UpdateEtrogSequence.map .updateEtrogSequence else none

/-- The record as the block holds it in the end: an Etrog sequence update reads the block's slot. -/
def Block.settle (block : Block) : Entry → Entry
  | .updateEtrogSequence sequence => .updateEtrogSequence (block.UpdateEtrogSequence.getD sequence)
  | entry => entry

/-- A verified batch is recorded under one of the two verify orders. -/
def Entry.named : Entry → Bool
  | .verifiedBatch _ orderName => orderName = .TrustedVerifyBatchOrder || orderName = .VerifyBatchOrder
  | _ => true

theorem getElem?_append_singleton_of_isSome {α : Type} {l : List α} {x : α} {pos : Nat}
    (found : l[pos]?.isSome) : (l ++ [x])[pos]? = l[pos]? :=
  List.getElem?_append_left (by
    by_contra outside
    simp [List.getElem?_eq_none (Nat.le_of_not_lt outside)] at found)

/-- A push keeps every order entry that resolved pointing at its record. -/
theorem Block.resolve_push (block : Block) (entry : Entry) (order : Order)
    (resolved : (block.resolve order).isSome) :
    (block.push entry).resolve order = (block.resolve order).map ((block.push entry).settle) := by
  rcases order with ⟨name, pos⟩
  cases name
  case UpdateEtrogSequenceOrder =>
    by_cases zero : pos = 0 <;> cases slot : block.UpdateEtrogSequence <;> cases entry <;>
      simp_all [Block.resolve, Block.push, Block.settle]
  all_goals
    simp only [Block.resolve, Option.isSome_map'] at resolved ⊢
    rw [Option.map_map]
    cases entry <;> simp only [Block.push, getElem?_append_singleton_of_isSome resolved] <;> rfl

/-- The entry a push records resolves to the pushed record. -/
theorem Block.resolve_push_self (block : Block) (entry : Entry) (named : entry.named) :
    (block.push entry).resolve ⟨entry.name, (block.push entry).position entry⟩ =
      some ((block.push entry).settle entry) := by
  cases entry with
  | verifiedBatch batch orderName =>
      rcases (by simpa [Entry.named] using named : orderName = _ ∨ orderName = _) with rfl | rfl <;>
        simp [Block.resolve, Block.push, Block.position, Block.settle, Entry.name]
  | _ => simp [Block.resolve, Block.push, Block.position, Block.settle, Entry.name]

theorem Block.settle_push_settle (block : Block) (entry record : Entry) :
    (block.push entry).settle (block.settle record) = (block.push entry).settle record := by
  cases record with
  | updateEtrogSequence sequence =>
      cases slot : block.UpdateEtrogSequence <;> cases entry <;> simp [Block.settle, Block.push, slot]
  | _ => rfl

/-- Pushing records one by one: the order entries name the records in order, and each resolves
to its record as the block finally holds it. -/
theorem resolve_trail (start : Block) (records : List Entry) (named : ∀ entry ∈ records, entry.named) :
    (trail start records).2.map Order.Name = records.map Entry.name ∧
      (trail start records).2.map (trail start records).1.resolve =
        records.map (some ∘ (trail start records).1.settle) := by
  induction records using List.reverseRecOn with
  | nil => simp [trail]
  | append_singleton records entry inductionHypothesis =>
      obtain ⟨names, resolves⟩ := inductionHypothesis fun other mem => named other (by simp [mem])
      rw [trail_append_singleton]
      generalize trail start records = state at names resolves ⊢
      rcases state with ⟨block, orders⟩
      refine ⟨by simp [names], ?_⟩
      have resolved : ∀ order ∈ orders, (block.resolve order).isSome := by
        intro order mem
        obtain ⟨_, _, found⟩ := List.mem_map.1 (resolves ▸ List.mem_map_of_mem block.resolve mem)
        simp [← found]
      have kept : orders.map (block.push entry).resolve = records.map (some ∘ (block.push entry).settle) :=
        calc orders.map (block.push entry).resolve
            = (orders.map block.resolve).map (Option.map (block.push entry).settle) := by
              rw [List.map_map]
              exact List.map_congr_left fun order mem => Block.resolve_push _ entry order (resolved order mem)
          _ = records.map (some ∘ (block.push entry).settle) := by
              simp [resolves, Function.comp_def, Block.settle_push_settle]
      simp [kept, Block.resolve_push_self _ entry (named entry (by simp))]

/-- A block received a record: one of its arrays or its Etrog slot is filled. -/
def Block.received (block : Block) : Bool :=
  !(block.GlobalExitRoots.isEmpty && block.ForcedBatches.isEmpty && block.SequencedBatches.isEmpty &&
    block.UpdateEtrogSequence.isNone && block.VerifiedBatches.isEmpty &&
    block.SequencedForceBatches.isEmpty && block.ForkIDs.isEmpty && block.L1InfoTree.isEmpty)

@[simp] theorem Block.received_push (block : Block) (entry : Entry) : (block.push entry).received = true := by
  cases entry <;> simp [Block.received, Block.push]

theorem received_trail {start : Block} {records : List Entry} (nonempty : records ≠ []) :
    (trail start records).1.received = true := by
  obtain ⟨front, entry, rfl⟩ := (List.eq_nil_or_concat records).resolve_left nonempty
  simp [trail_append_singleton]

section Spec

variable (header : Hash → FullBlock) (record : Log → Option Entry)

/-- The block opened for a key: its hash and number, and the header L1 gives for the hash. -/
def freshAt (key : Hash × U64) : Block where
  BlockNumber := key.2
  BlockHash := key.1
  ParentHash := (header key.1).ParentHash
  ReceivedAt := (header key.1).Time

@[simp] theorem freshAt_key (key : Hash × U64) : (freshAt header key).key = key := rfl

@[simp] theorem freshAt_BlockHash (key : Hash × U64) : (freshAt header key).BlockHash = key.1 := rfl

/-- The entry goes to the last block when that block has the key, and to a new block otherwise. -/
def Accumulators.addEntry (acc : Accumulators) (key : Hash × U64) (entry : Entry) : Accumulators :=
  match acc.blocks.getLast? with
  | some head =>
      if head.key = key then acc.commit acc.blocks.dropLast (head.push entry) entry
      else acc.commit acc.blocks ((freshAt header key).push entry) entry
  | none => acc.commit acc.blocks ((freshAt header key).push entry) entry

/-- Opens the block of the key at the end unless it is the last block. -/
def Accumulators.openBlock (acc : Accumulators) (key : Hash × U64) : Accumulators :=
  match acc.blocks.getLast? with
  | some head => if head.key = key then acc else { acc with blocks := acc.blocks ++ [freshAt header key] }
  | none => { acc with blocks := acc.blocks ++ [freshAt header key] }

/-- The spec's step for one log: with `keepEmpty` (the pre-fetch mode) the log's block is opened
even when the log has no record. -/
def Accumulators.put (keepEmpty : Bool) (acc : Accumulators) (vLog : Log) : Accumulators :=
  let opened := if keepEmpty then acc.openBlock header vLog.key else acc
  match record vLog with
  | some entry => opened.addEntry header vLog.key entry
  | none => opened

/-- The spec's run over the logs. -/
def bucketRun (keepEmpty : Bool) (logs : List Log) : Accumulators :=
  logs.foldl (Accumulators.put header record keepEmpty) Accumulators.empty

/-- The logs that get a block: those with a record, or all of them with `keepEmpty`. -/
def kept (keepEmpty : Bool) (vLog : Log) : Bool := keepEmpty || (record vLog).isSome

theorem bucketRun_append_singleton (keepEmpty : Bool) (logs : List Log) (vLog : Log) :
    bucketRun header record keepEmpty (logs ++ [vLog]) =
      (bucketRun header record keepEmpty logs).put header record keepEmpty vLog := by
  simp [bucketRun]

theorem map_key_addEntry (acc : Accumulators) (key : Hash × U64) (entry : Entry) :
    (acc.addEntry header key entry).blocks.map Block.key =
      if (acc.blocks.map Block.key).getLast? = some key then acc.blocks.map Block.key
      else acc.blocks.map Block.key ++ [key] := by
  unfold Accumulators.addEntry
  cases last : acc.blocks.getLast? with
  | none => simp [List.getLast?_map, last]
  | some head =>
      have whole := List.dropLast_append_getLast? head last
      by_cases same : head.key = key
      · conv_rhs => rw [← whole]
        simp [List.getLast?_map, last, same]
      · simp [List.getLast?_map, last, same]

theorem map_key_openBlock (acc : Accumulators) (key : Hash × U64) :
    (acc.openBlock header key).blocks.map Block.key =
      if (acc.blocks.map Block.key).getLast? = some key then acc.blocks.map Block.key
      else acc.blocks.map Block.key ++ [key] := by
  unfold Accumulators.openBlock
  cases last : acc.blocks.getLast? with
  | none => simp [List.getLast?_map, last]
  | some head => by_cases same : head.key = key <;> simp [List.getLast?_map, last, same]

@[simp] theorem blocksOrder_openBlock (acc : Accumulators) (key : Hash × U64) :
    (acc.openBlock header key).blocksOrder = acc.blocksOrder := by
  unfold Accumulators.openBlock
  split
  · split <;> rfl
  · rfl

theorem getLast?_map_key_openBlock (acc : Accumulators) (key : Hash × U64) :
    ((acc.openBlock header key).blocks.map Block.key).getLast? = some key := by
  rw [map_key_openBlock]
  split <;> simp_all

/-- One step of the spec opens a block exactly when the log is kept and its key is not last. -/
theorem map_key_put (keepEmpty : Bool) (acc : Accumulators) (vLog : Log) :
    (acc.put header record keepEmpty vLog).blocks.map Block.key =
      if kept record keepEmpty vLog then
        (if (acc.blocks.map Block.key).getLast? = some vLog.key then acc.blocks.map Block.key
         else acc.blocks.map Block.key ++ [vLog.key])
      else acc.blocks.map Block.key := by
  unfold Accumulators.put kept
  cases keepEmpty <;> cases entry : record vLog
  · simp
  · simp [map_key_addEntry]
  · simp [map_key_openBlock]
  · simp only [ite_true, Bool.true_or]
    rw [map_key_addEntry, getLast?_map_key_openBlock, if_pos rfl, map_key_openBlock]

/-- The blocks of a run are the kept logs' keys with adjacent repeats merged, in any log order. -/
theorem map_key_bucketRun (keepEmpty : Bool) (logs : List Log) :
    (bucketRun header record keepEmpty logs).blocks.map Block.key =
      ((logs.filter (kept record keepEmpty)).map Log.key).destutter (· ≠ ·) := by
  induction logs using List.reverseRecOn with
  | nil => rfl
  | append_singleton front vLog inductionHypothesis =>
      rw [bucketRun_append_singleton, map_key_put, inductionHypothesis, List.filter_append]
      by_cases keep : kept record keepEmpty vLog
      · simp [keep, destutter_append_singleton_ne, getLast?_destutter_ne]
      · simp [keep]

theorem addEntry_of_last {acc : Accumulators} {head : Block} {key : Hash × U64} (entry : Entry)
    (last : acc.blocks.getLast? = some head) (same : head.key = key) :
    acc.addEntry header key entry = acc.commit acc.blocks.dropLast (head.push entry) entry := by
  simp [Accumulators.addEntry, last, same]

theorem addEntry_of_not_last {acc : Accumulators} {key : Hash × U64} (entry : Entry)
    (notLast : (acc.blocks.map Block.key).getLast? ≠ some key) :
    acc.addEntry header key entry = acc.commit acc.blocks ((freshAt header key).push entry) entry := by
  unfold Accumulators.addEntry
  cases last : acc.blocks.getLast? with
  | none => rfl
  | some head => simp_all [List.getLast?_map]

theorem openBlock_of_last {acc : Accumulators} {key : Hash × U64}
    (lastKey : (acc.blocks.map Block.key).getLast? = some key) : acc.openBlock header key = acc := by
  unfold Accumulators.openBlock
  cases last : acc.blocks.getLast? <;> simp_all [List.getLast?_map]

theorem openBlock_of_not_last {acc : Accumulators} {key : Hash × U64}
    (notLast : (acc.blocks.map Block.key).getLast? ≠ some key) :
    acc.openBlock header key = { acc with blocks := acc.blocks ++ [freshAt header key] } := by
  unfold Accumulators.openBlock
  cases last : acc.blocks.getLast? <;> simp_all [List.getLast?_map]

theorem put_of_last {keepEmpty : Bool} {acc : Accumulators} {vLog : Log} {head : Block} {entry : Entry}
    (last : acc.blocks.getLast? = some head) (same : head.key = vLog.key) (recorded : record vLog = some entry) :
    acc.put header record keepEmpty vLog = acc.commit acc.blocks.dropLast (head.push entry) entry := by
  have lastKey : (acc.blocks.map Block.key).getLast? = some vLog.key := by simp [List.getLast?_map, last, same]
  unfold Accumulators.put
  cases keepEmpty <;> simp [recorded, openBlock_of_last header lastKey, addEntry_of_last header entry last same]

theorem put_of_not_last {keepEmpty : Bool} {acc : Accumulators} {vLog : Log} {entry : Entry}
    (notLast : (acc.blocks.map Block.key).getLast? ≠ some vLog.key) (recorded : record vLog = some entry) :
    acc.put header record keepEmpty vLog = acc.commit acc.blocks ((freshAt header vLog.key).push entry) entry := by
  unfold Accumulators.put
  cases keepEmpty
  · simp [recorded, addEntry_of_not_last header entry notLast]
  · rw [recorded]
    show (acc.openBlock header vLog.key).addEntry header vLog.key entry = _
    rw [openBlock_of_not_last header notLast,
      addEntry_of_last header entry (List.getLast?_concat _) (freshAt_key header _)]
    simp [Accumulators.commit]

theorem put_of_none {keepEmpty : Bool} {acc : Accumulators} {vLog : Log} (recorded : record vLog = none) :
    acc.put header record keepEmpty vLog = if keepEmpty then acc.openBlock header vLog.key else acc := by
  simp [Accumulators.put, recorded]

/-- What one step of the spec can do: push the record onto the last block when that block has
the log's key, open a block for the record otherwise, open an empty block in `keepEmpty` mode, or
leave the accumulators alone. -/
theorem put_cases (keepEmpty : Bool) (acc : Accumulators) (vLog : Log) :
    (∃ head entry, acc.blocks.getLast? = some head ∧ head.key = vLog.key ∧ record vLog = some entry ∧
      acc.put header record keepEmpty vLog = acc.commit acc.blocks.dropLast (head.push entry) entry) ∨
    (∃ entry, (acc.blocks.map Block.key).getLast? ≠ some vLog.key ∧ record vLog = some entry ∧
      acc.put header record keepEmpty vLog =
        acc.commit acc.blocks ((freshAt header vLog.key).push entry) entry) ∨
    ((acc.blocks.map Block.key).getLast? ≠ some vLog.key ∧ record vLog = none ∧ keepEmpty = true ∧
      acc.put header record keepEmpty vLog =
        { acc with blocks := acc.blocks ++ [freshAt header vLog.key] }) ∨
    (record vLog = none ∧ acc.put header record keepEmpty vLog = acc) := by
  by_cases lastKey : (acc.blocks.map Block.key).getLast? = some vLog.key
  · obtain ⟨head, last, same⟩ : ∃ head, acc.blocks.getLast? = some head ∧ head.key = vLog.key := by
      simpa [List.getLast?_map] using lastKey
    cases recorded : record vLog with
    | none => exact .inr (.inr (.inr ⟨rfl, by cases keepEmpty <;> simp [put_of_none header record recorded,
        openBlock_of_last header lastKey]⟩))
    | some entry => exact .inl ⟨head, entry, last, same, rfl, put_of_last header record last same recorded⟩
  · cases recorded : record vLog with
    | none =>
        cases keepEmpty
        · exact .inr (.inr (.inr ⟨rfl, put_of_none header record recorded⟩))
        · exact .inr (.inr (.inl ⟨lastKey, rfl, rfl, by
            rw [put_of_none header record recorded, if_pos rfl, openBlock_of_not_last header lastKey]⟩))
    | some entry => exact .inr (.inl ⟨entry, lastKey, rfl, put_of_not_last header record lastKey recorded⟩)

/-- Once a kept log of the new log's block has been seen, the last kept key is the new log's. -/
theorem getLast?_kept_keys {keepEmpty : Bool} {logs : List Log} {earlier vLog : Log}
    (grouped : Grouped (logs ++ [vLog])) (mem : earlier ∈ logs) (keep : kept record keepEmpty earlier)
    (same : earlier.BlockHash = vLog.BlockHash) :
    ((logs.filter (kept record keepEmpty)).map Log.key).getLast? = some vLog.key := by
  obtain ⟨front, middle, rfl⟩ := List.append_of_mem mem
  have between := Contiguous.between
    (show Contiguous (front ++ earlier :: (middle ++ [vLog])) by simpa using grouped.contiguous) same
  have keyOf : ∀ other ∈ earlier :: middle, other.key = vLog.key := by
    intro other otherMem
    have sameHash : other.BlockHash = vLog.BlockHash := by
      rcases List.mem_cons.1 otherMem with rfl | inMiddle
      exacts [same, between other inMiddle]
    have sameNumber := grouped.sameNumber other (by rcases List.mem_cons.1 otherMem with h | h <;> simp [h])
      vLog (by simp) sameHash
    simp [Log.key, sameHash, sameNumber]
  obtain ⟨lastKey, isLast⟩ : ∃ lastKey,
      (earlier.key :: (middle.filter (kept record keepEmpty)).map Log.key).getLast? = some lastKey :=
    ⟨_, List.getLast?_eq_getLast _ (List.cons_ne_nil _ _)⟩
  have lastKeyMem := List.mem_of_getLast?_eq_some isLast
  simp only [List.mem_cons, List.mem_map, List.mem_filter] at lastKeyMem
  rw [List.filter_append, List.filter_cons_of_pos keep, List.map_append, List.map_cons,
    List.getLast?_append_cons, isLast]
  rcases lastKeyMem with rfl | ⟨other, ⟨otherMem, -⟩, rfl⟩
  exacts [congrArg some (keyOf earlier (List.mem_cons_self _ _)),
    congrArg some (keyOf other (List.mem_cons_of_mem _ otherMem))]

theorem getLast?_map_key_bucketRun_of_kept {keepEmpty : Bool} {logs : List Log} {earlier vLog : Log}
    (grouped : Grouped (logs ++ [vLog])) (mem : earlier ∈ logs) (keep : kept record keepEmpty earlier)
    (same : earlier.BlockHash = vLog.BlockHash) :
    ((bucketRun header record keepEmpty logs).blocks.map Block.key).getLast? = some vLog.key := by
  rw [map_key_bucketRun, getLast?_destutter_ne]
  exact getLast?_kept_keys record grouped mem keep same

/-- Every block of a run is the block of a kept log. -/
theorem exists_kept_of_mem_bucketRun {keepEmpty : Bool} {logs : List Log} {block : Block}
    (mem : block ∈ (bucketRun header record keepEmpty logs).blocks) :
    ∃ vLog ∈ logs, kept record keepEmpty vLog ∧ vLog.key = block.key := by
  have keyMem := List.mem_map_of_mem Block.key mem
  rw [map_key_bucketRun] at keyMem
  obtain ⟨vLog, filtered, keyEq⟩ := List.mem_map.1 ((List.destutter_sublist _ _).subset keyMem)
  exact ⟨vLog, (List.mem_filter.1 filtered).1, (List.mem_filter.1 filtered).2, keyEq⟩

/-- A new log whose key is not the last block's meets no kept log of its block. -/
theorem not_kept_of_not_last {keepEmpty : Bool} {logs : List Log} {vLog : Log}
    (grouped : Grouped (logs ++ [vLog]))
    (notLast : ((bucketRun header record keepEmpty logs).blocks.map Block.key).getLast? ≠ some vLog.key) :
    ∀ earlier ∈ logs, earlier.BlockHash = vLog.BlockHash → ¬kept record keepEmpty earlier :=
  fun _ mem same keep => notLast (getLast?_map_key_bucketRun_of_kept header record grouped mem keep same)

/-- A block of a run that has the new log's hash has its key. -/
theorem key_eq_of_mem_bucketRun {keepEmpty : Bool} {logs : List Log} {vLog : Log} {block : Block}
    (grouped : Grouped (logs ++ [vLog])) (mem : block ∈ (bucketRun header record keepEmpty logs).blocks)
    (same : block.BlockHash = vLog.BlockHash) : block.key = vLog.key := by
  obtain ⟨earlier, earlierMem, -, keyEq⟩ := exists_kept_of_mem_bucketRun header record mem
  have sameHash : earlier.BlockHash = vLog.BlockHash := (congrArg Prod.fst keyEq).trans same
  have sameNumber := grouped.sameNumber earlier (by simp [earlierMem]) vLog (by simp) sameHash
  rw [← keyEq]
  simp [Log.key, sameHash, sameNumber]

/-- Over grouped logs the blocks of a run have distinct keys. -/
theorem nodup_map_key_bucketRun {keepEmpty : Bool} {logs : List Log} (grouped : Grouped logs) :
    ((bucketRun header record keepEmpty logs).blocks.map Block.key).Nodup := by
  induction logs using List.reverseRecOn with
  | nil => exact List.nodup_nil
  | append_singleton front vLog inductionHypothesis =>
      have nodupFront := inductionHypothesis grouped.of_append
      rw [bucketRun_append_singleton, map_key_put]
      split
      · split
        · exact nodupFront
        · rename_i notLast
          rw [← List.concat_eq_append]
          refine nodupFront.concat fun mem => ?_
          obtain ⟨block, blockMem, keyEq⟩ := List.mem_map.1 mem
          obtain ⟨earlier, earlierMem, keep, earlierKey⟩ := exists_kept_of_mem_bucketRun header record blockMem
          exact notLast (getLast?_map_key_bucketRun_of_kept header record grouped earlierMem keep
            (congrArg Prod.fst (earlierKey.trans keyEq)))
      · exact nodupFront

/-- The records of one block's logs, in log order. -/
def recordsOf (logs : List Log) (blockHash : Hash) : List Entry :=
  (logs.filter (·.BlockHash = blockHash)).filterMap record

theorem recordsOf_append_singleton (logs : List Log) (vLog : Log) (blockHash : Hash) :
    recordsOf record (logs ++ [vLog]) blockHash =
      recordsOf record logs blockHash ++ if vLog.BlockHash = blockHash then (record vLog).toList else [] := by
  simp only [recordsOf, List.filter_append, List.filterMap_append]
  by_cases same : vLog.BlockHash = blockHash <;> cases recorded : record vLog <;> simp [same, recorded]

/-- Only the hashes of a run's blocks carry orders. -/
theorem blocksOrder_bucketRun_of_absent {keepEmpty : Bool} {logs : List Log} {blockHash : Hash}
    (absent : ∀ block ∈ (bucketRun header record keepEmpty logs).blocks, block.BlockHash ≠ blockHash) :
    (bucketRun header record keepEmpty logs).blocksOrder blockHash = [] := by
  revert absent
  induction logs using List.reverseRecOn with
  | nil => exact fun _ => rfl
  | append_singleton front vLog inductionHypothesis =>
      rw [bucketRun_append_singleton]
      intro absent
      rcases put_cases header record keepEmpty (bucketRun header record keepEmpty front) vLog with
        ⟨head, entry, last, -, -, step⟩ | ⟨entry, -, -, step⟩ | ⟨-, -, -, step⟩ | ⟨-, step⟩ <;>
        rw [step] at absent ⊢
      · rw [Accumulators.blocksOrder_commit, if_neg (absent _ (by simp)).symm]
        refine inductionHypothesis fun block mem => ?_
        rw [← List.dropLast_append_getLast? head last] at mem
        rcases List.mem_append.1 mem with inFront | isHead
        · exact absent block (List.mem_append_left _ inFront)
        · rw [List.mem_singleton.1 isHead, ← Block.BlockHash_push head entry]
          exact absent _ (by simp)
      · rw [Accumulators.blocksOrder_commit, if_neg (absent _ (by simp)).symm]
        exact inductionHypothesis fun block mem => absent block (List.mem_append_left _ mem)
      · exact inductionHypothesis fun block mem => absent block (List.mem_append_left _ mem)
      · exact inductionHypothesis absent

/-- A log whose key is not the last block's starts its block: the run has no block, no orders
and no record of its hash yet. -/
theorem fresh_of_not_last {keepEmpty : Bool} {front : List Log} {vLog : Log}
    (grouped : Grouped (front ++ [vLog]))
    (notLast : ((bucketRun header record keepEmpty front).blocks.map Block.key).getLast? ≠ some vLog.key) :
    (∀ block ∈ (bucketRun header record keepEmpty front).blocks, block.BlockHash ≠ vLog.BlockHash) ∧
      (bucketRun header record keepEmpty front).blocksOrder vLog.BlockHash = [] ∧
      recordsOf record front vLog.BlockHash = [] := by
  have noKept := not_kept_of_not_last header record grouped notLast
  have absent : ∀ block ∈ (bucketRun header record keepEmpty front).blocks,
      block.BlockHash ≠ vLog.BlockHash := fun block mem sameHash => by
    obtain ⟨earlier, earlierMem, keep, keyEq⟩ := exists_kept_of_mem_bucketRun header record mem
    exact noKept earlier earlierMem ((congrArg Prod.fst keyEq).trans sameHash) keep
  refine ⟨absent, blocksOrder_bucketRun_of_absent header record absent, ?_⟩
  simp only [recordsOf, List.filterMap_eq_nil_iff, List.mem_filter, decide_eq_true_eq]
  intro earlier ⟨earlierMem, sameHash⟩
  exact (by simpa [kept] using noKept earlier earlierMem sameHash : _ ∧ _).2

/-- Over grouped logs each block of a run is its records pushed one by one onto the fresh block,
and its orders are the orders those pushes record. -/
theorem trail_bucketRun {keepEmpty : Bool} {logs : List Log} (grouped : Grouped logs) :
    ∀ block ∈ (bucketRun header record keepEmpty logs).blocks,
      (block, (bucketRun header record keepEmpty logs).blocksOrder block.BlockHash) =
        trail (freshAt header block.key) (recordsOf record logs block.BlockHash) := by
  induction logs using List.reverseRecOn with
  | nil => intro _ mem; cases mem
  | append_singleton front vLog inductionHypothesis =>
      have previous := inductionHypothesis grouped.of_append
      rw [bucketRun_append_singleton]
      rcases put_cases header record keepEmpty (bucketRun header record keepEmpty front) vLog with
        ⟨head, entry, last, same, recorded, step⟩ | ⟨entry, notLast, recorded, step⟩ |
        ⟨notLast, recorded, -, step⟩ | ⟨recorded, step⟩ <;> rw [step]
      · have headHash : head.BlockHash = vLog.BlockHash := congrArg Prod.fst same
        have headMem := List.mem_of_getLast?_eq_some last
        intro block mem
        rcases List.mem_append.1 mem with inFront | isHead
        · have other : block.BlockHash ≠ vLog.BlockHash := fun sameHash =>
            key_ne_of_mem_dropLast (nodup_map_key_bucketRun header record grouped.of_append) last inFront
              ((key_eq_of_mem_bucketRun header record grouped (List.dropLast_subset _ inFront)
                sameHash).trans same.symm)
          rw [Accumulators.blocksOrder_commit, Block.BlockHash_push, headHash, if_neg other,
            recordsOf_append_singleton, if_neg (Ne.symm other), List.append_nil]
          exact previous block (List.dropLast_subset _ inFront)
        · rw [List.mem_singleton.1 isHead, Block.BlockHash_push, Accumulators.blocksOrder_commit,
            Block.BlockHash_push, if_pos rfl, recordsOf_append_singleton, headHash, if_pos rfl, recorded,
            Option.toList_some, trail_append_singleton, Block.key_push, ← headHash, ← previous head headMem]
      · obtain ⟨absent, noOrders, noRecords⟩ := fresh_of_not_last header record grouped notLast
        intro block mem
        rcases List.mem_append.1 mem with inFront | isNew
        · have other := absent block inFront
          rw [Accumulators.blocksOrder_commit,
            if_neg (show block.BlockHash ≠ ((freshAt header vLog.key).push entry).BlockHash by simpa),
            recordsOf_append_singleton, if_neg (Ne.symm other), List.append_nil]
          exact previous block inFront
        · rw [List.mem_singleton.1 isNew]
          simp [Accumulators.blocksOrder_commit, recordsOf_append_singleton, recorded, noRecords, noOrders,
            trail]
      · obtain ⟨-, noOrders, noRecords⟩ := fresh_of_not_last header record grouped notLast
        intro block mem
        rw [recordsOf_append_singleton, recorded]
        rcases List.mem_append.1 mem with inFront | isNew
        · simpa using previous block inFront
        · rw [List.mem_singleton.1 isNew]
          simp [noRecords, noOrders, trail]
      · intro block mem
        rw [recordsOf_append_singleton, recorded]
        simpa using previous block mem

@[simp] theorem received_freshAt (key : Hash × U64) : (freshAt header key).received = false := rfl

/-- Opening an empty block adds no block that received a record. -/
theorem filter_received_openBlock (acc : Accumulators) (key : Hash × U64) :
    (acc.openBlock header key).blocks.filter Block.received = acc.blocks.filter Block.received := by
  unfold Accumulators.openBlock
  split
  · split <;> simp
  · simp

/-- A block of a grouped pre-fetch run received a record when a log of its hash produced one. -/
theorem received_of_kept {logs : List Log} {earlier : Log} {block : Block} (grouped : Grouped logs)
    (earlierMem : earlier ∈ logs) (keep : kept record false earlier)
    (mem : block ∈ (bucketRun header record true logs).blocks) (sameHash : earlier.BlockHash = block.BlockHash) :
    block.received = true := by
  rw [(Prod.mk.inj (trail_bucketRun header record grouped block mem)).1]
  refine received_trail fun noRecords => ?_
  obtain ⟨entry, found⟩ := Option.isSome_iff_exists.1 (by simpa [kept] using keep)
  simp only [recordsOf, List.filterMap_eq_nil_iff, List.mem_filter, decide_eq_true_eq] at noRecords
  simp [noRecords earlier ⟨earlierMem, sameHash⟩] at found

/-- The pre-fetch run with its blocks that received no record removed is the on-demand run. -/
theorem bucketRun_filter_received {logs : List Log} (grouped : Grouped logs) :
    (bucketRun header record true logs).blocks.filter Block.received = (bucketRun header record false logs).blocks ∧
      (bucketRun header record true logs).blocksOrder = (bucketRun header record false logs).blocksOrder := by
  induction logs using List.reverseRecOn with
  | nil => exact ⟨rfl, rfl⟩
  | append_singleton front vLog inductionHypothesis =>
      obtain ⟨sameBlocks, sameOrders⟩ := inductionHypothesis grouped.of_append
      have trails := @trail_bucketRun header record true front grouped.of_append
      rw [bucketRun_append_singleton, bucketRun_append_singleton]
      rcases put_cases header record false (bucketRun header record false front) vLog with
        ⟨headF, entry, lastF, sameF, recorded, stepF⟩ | ⟨entry, notLastF, recorded, stepF⟩ |
        ⟨-, -, impossible, -⟩ | ⟨recorded, stepF⟩
      · -- the on-demand run's last block is the log's: so is the pre-fetch run's
        obtain ⟨earlier, earlierMem, keep, earlierKey⟩ :=
          exists_kept_of_mem_bucketRun header record (List.mem_of_getLast?_eq_some lastF)
        have lastT := @getLast?_map_key_bucketRun_of_kept header record true front earlier vLog grouped earlierMem
          rfl ((congrArg Prod.fst earlierKey).trans (congrArg Prod.fst sameF))
        obtain ⟨headT, lastT', sameT⟩ : ∃ headT, (bucketRun header record true front).blocks.getLast? = some headT ∧
            headT.key = vLog.key := by simpa [List.getLast?_map] using lastT
        have receivedT : headT.received = true :=
          received_of_kept header record grouped.of_append earlierMem keep (List.mem_of_getLast?_eq_some lastT')
            ((congrArg Prod.fst earlierKey).trans ((congrArg Prod.fst sameF).trans (congrArg Prod.fst sameT).symm))
        have splitT := List.dropLast_append_getLast? headT lastT'
        have splitF := List.dropLast_append_getLast? headF lastF
        rw [← splitT, ← splitF, List.filter_append, List.filter_singleton, receivedT, cond_true] at sameBlocks
        obtain ⟨dropLasts, heads⟩ := List.append_inj' sameBlocks rfl
        cases List.singleton_inj.1 heads
        rw [stepF, put_of_last header record lastT' sameT recorded]
        simp [Accumulators.commit, dropLasts, sameOrders]
      · rw [stepF]
        by_cases lastT : ((bucketRun header record true front).blocks.map Block.key).getLast? = some vLog.key
        · -- the pre-fetch run opened the log's block empty, as the last block
          obtain ⟨headT, lastT', sameT⟩ : ∃ headT,
              (bucketRun header record true front).blocks.getLast? = some headT ∧ headT.key = vLog.key := by
            simpa [List.getLast?_map] using lastT
          obtain ⟨-, -, noRecords⟩ := fresh_of_not_last header record grouped notLastF
          have fresh : headT = freshAt header vLog.key := by
            have := trails headT (List.mem_of_getLast?_eq_some lastT')
            have headHash : headT.BlockHash = vLog.BlockHash := congrArg Prod.fst sameT
            rw [sameT, headHash, noRecords] at this
            exact (Prod.mk.inj this).1
          have splitT := List.dropLast_append_getLast? headT lastT'
          rw [← splitT, List.filter_append, fresh, List.filter_singleton, received_freshAt, cond_false,
            List.append_nil] at sameBlocks
          rw [put_of_last header record lastT' sameT recorded, fresh]
          simp [Accumulators.commit, List.filter_append, sameBlocks, sameOrders]
        · rw [put_of_not_last header record lastT recorded]
          simp [Accumulators.commit, List.filter_append, sameBlocks, sameOrders]
      · exact absurd impossible Bool.false_ne_true
      · rw [stepF, put_of_none header record recorded, if_pos rfl]
        exact ⟨(filter_received_openBlock header _ _).trans sameBlocks,
          (blocksOrder_openBlock header _ _).trans sameOrders⟩

/-- Over ascending logs the blocks of a run have strictly increasing numbers and distinct hashes. -/
theorem ascending_bucketRun {keepEmpty : Bool} {logs : List Log} (ascending : Ascending logs)
    (sameNumber : SameNumber logs) :
    ((bucketRun header record keepEmpty logs).blocks.map Block.BlockNumber).Pairwise (· < ·) ∧
      ((bucketRun header record keepEmpty logs).blocks.map Block.BlockHash).Nodup := by
  have keysAscend : ((logs.filter (kept record keepEmpty)).map Log.key).Pairwise
      fun first second => first = second ∨ first.2 < second.2 :=
    List.pairwise_map.2 (ascending.filter _)
  have increasing : ((bucketRun header record keepEmpty logs).blocks.map Block.key).Chain'
      fun first second => first.2.toNat < second.2.toNat := by
    rw [map_key_bucketRun]
    exact (chain'_and (List.destutter_is_chain' (· ≠ ·) _)
      (keysAscend.sublist (List.destutter_sublist _ _)).chain').imp
        fun _ _ ⟨differ, related⟩ => BitVec.lt_def.1 (related.resolve_left differ)
  have numbers := List.pairwise_map.1
    (List.chain'_iff_pairwise.1 ((List.chain'_map fun key : Hash × U64 => key.2.toNat).2 increasing))
  refine ⟨List.pairwise_map.2 (List.pairwise_map.1 numbers |>.imp BitVec.lt_def.2), ?_⟩
  refine List.pairwise_map.2 ((List.pairwise_map.1 numbers).imp_of_mem fun firstMem secondMem below same => ?_)
  obtain ⟨first, firstLog, -, firstKey⟩ := exists_kept_of_mem_bucketRun header record firstMem
  obtain ⟨second, secondLog, -, secondKey⟩ := exists_kept_of_mem_bucketRun header record secondMem
  have sameHash : first.BlockHash = second.BlockHash :=
    (congrArg Prod.fst firstKey).trans (same.trans (congrArg Prod.fst secondKey).symm)
  have equalNumber := sameNumber first firstLog second secondLog sameHash
  rw [← congrArg Prod.snd firstKey, ← congrArg Prod.snd secondKey] at below
  exact absurd below (by simp [Log.key, equalNumber])

/-- Over grouped logs the blocks of a run have distinct hashes. -/
theorem nodup_map_BlockHash_bucketRun {keepEmpty : Bool} {logs : List Log} (grouped : Grouped logs) :
    ((bucketRun header record keepEmpty logs).blocks.map Block.BlockHash).Nodup := by
  have keys := @nodup_map_key_bucketRun header record keepEmpty logs grouped
  rw [show Block.BlockHash = Prod.fst ∘ Block.key from rfl, ← List.map_map]
  refine keys.map_on fun first firstMem second secondMem sameHash => ?_
  obtain ⟨firstBlock, firstBlockMem, rfl⟩ := List.mem_map.1 firstMem
  obtain ⟨secondBlock, secondBlockMem, rfl⟩ := List.mem_map.1 secondMem
  obtain ⟨firstLog, firstLogMem, -, firstKey⟩ := exists_kept_of_mem_bucketRun header record firstBlockMem
  obtain ⟨secondLog, secondLogMem, -, secondKey⟩ := exists_kept_of_mem_bucketRun header record secondBlockMem
  have logHash : firstLog.BlockHash = secondLog.BlockHash :=
    (congrArg Prod.fst firstKey).trans (sameHash.trans (congrArg Prod.fst secondKey).symm)
  rw [← firstKey, ← secondKey]
  simp [Log.key, logHash, grouped.sameNumber firstLog firstLogMem secondLog secondLogMem logHash]

/-- Every hash with orders is the hash of a block of the run. -/
theorem exists_block_of_blocksOrder {keepEmpty : Bool} {logs : List Log} {blockHash : Hash}
    (ordered : (bucketRun header record keepEmpty logs).blocksOrder blockHash ≠ []) :
    ∃ block ∈ (bucketRun header record keepEmpty logs).blocks, block.BlockHash = blockHash := by
  by_contra absent
  push_neg at absent
  exact ordered (blocksOrder_bucketRun_of_absent header record absent)

end Spec

end SynchronizerL1.Etherman
