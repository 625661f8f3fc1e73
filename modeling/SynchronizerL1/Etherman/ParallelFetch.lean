import SynchronizerL1.Etherman.ReadEvents

/-!
`RetrieveBlocksInParallel` over every order in which its goroutines complete.
-/

namespace SynchronizerL1.Etherman

/-- The errors of the goroutines that failed, in completion order. -/
def failures (completed : List (Hash × Except Error Block)) : List Error :=
  completed.filterMap fun done =>
    match done.2 with
    | .error cause => some cause
    | .ok _ => none

@[simp] theorem failures_append_error (completed : List (Hash × Except Error Block)) (blockHash : Hash)
    (cause : Error) : failures (completed ++ [(blockHash, .error cause)]) = failures completed ++ [cause] := by
  simp [failures, List.filterMap_append]

@[simp] theorem failures_append_ok (completed : List (Hash × Except Error Block)) (blockHash : Hash)
    (block : Block) : failures (completed ++ [(blockHash, .ok block)]) = failures completed := by
  simp [failures, List.filterMap_append]

theorem retrieveBlocksInParallel_append_singleton (completed : List (Hash × Except Error Block))
    (done : Hash × Except Error Block) :
    retrieveBlocksInParallel (completed ++ [done]) = storeRetrieved (retrieveBlocksInParallel completed) done := by
  simp [retrieveBlocksInParallel, List.foldl_append]

/-- The error slot holds the error of the last goroutine that failed. -/
theorem retrieveBlocksInParallel_error (completed : List (Hash × Except Error Block)) :
    (retrieveBlocksInParallel completed).2 = (failures completed).getLast? := by
  induction completed using List.reverseRecOn with
  | nil => rfl
  | append_singleton completed done inductionHypothesis =>
      obtain ⟨blockHash, cause | block⟩ := done
      · simp [retrieveBlocksInParallel_append_singleton, storeRetrieved]
      · simp [retrieveBlocksInParallel_append_singleton, storeRetrieved, inductionHypothesis]

/-- When the fetches of one hash that succeed agree on the block, the map holds a block under a
hash exactly when a goroutine fetched that block for it. -/
theorem retrieveBlocksInParallel_map {completed : List (Hash × Except Error Block)}
    (sameBlock : ∀ blockHash block block', (blockHash, .ok block) ∈ completed →
      (blockHash, .ok block') ∈ completed → block = block') (blockHash : Hash) (block : Block) :
    (retrieveBlocksInParallel completed).1 blockHash = some block ↔ (blockHash, .ok block) ∈ completed := by
  induction completed using List.reverseRecOn with
  | nil => simp [retrieveBlocksInParallel]
  | append_singleton completed done inductionHypothesis =>
      have earlier := inductionHypothesis fun blockHash block block' first second =>
        sameBlock blockHash block block' (List.mem_append_left _ first) (List.mem_append_left _ second)
      rw [retrieveBlocksInParallel_append_singleton]
      obtain ⟨fetchedHash, cause | fetched⟩ := done
      · simpa [storeRetrieved] using earlier
      · by_cases same : blockHash = fetchedHash
        · subst same
          have agree : (blockHash, .ok block) ∈ completed → block = fetched := fun mem =>
            sameBlock _ _ _ (List.mem_append_left _ mem) (List.mem_append_right _ (List.mem_singleton_self _))
          simp only [storeRetrieved, Function.update_same, Option.some.injEq, List.mem_append, List.mem_singleton,
            Prod.mk.injEq, Except.ok.injEq, true_and]
          constructor
          · exact fun fetchedIt => .inr fetchedIt.symm
          · rintro (mem | rfl)
            · exact (agree mem).symm
            · rfl
        · simpa [storeRetrieved, Function.update_noteq same, same] using earlier

theorem retrieveBlocksInParallel_fetches {fetches completed : List (Hash × Except Error Block)}
    (sameBlock : ∀ blockHash block block', (blockHash, .ok block) ∈ fetches →
      (blockHash, .ok block') ∈ fetches → block = block')
    (schedule : completed.Perm fetches) :
    ((retrieveBlocksInParallel completed).2 = none ↔ ∀ fetch ∈ fetches, ∃ block, fetch.2 = .ok block) ∧
    (∀ blockHash block,
      (retrieveBlocksInParallel completed).1 blockHash = some block ↔ (blockHash, .ok block) ∈ fetches) ∧
    (retrieveBlocksInParallel completed).2 = (failures completed).getLast? ∧
    ∀ reordered, reordered.Perm fetches →
      (retrieveBlocksInParallel reordered).1 = (retrieveBlocksInParallel completed).1 := by
  have holds : ∀ run : List (Hash × Except Error Block), run.Perm fetches → ∀ blockHash block,
      (retrieveBlocksInParallel run).1 blockHash = some block ↔ (blockHash, .ok block) ∈ fetches := by
    intro run order blockHash block
    rw [← order.mem_iff]
    exact retrieveBlocksInParallel_map (fun blockHash block block' first second =>
      sameBlock blockHash block block' (order.subset first) (order.subset second)) blockHash block
  refine ⟨?_, holds completed schedule, retrieveBlocksInParallel_error completed, fun reordered order => ?_⟩
  · rw [retrieveBlocksInParallel_error, List.getLast?_eq_none_iff, failures, List.filterMap_eq_nil_iff]
    refine ⟨fun none fetch mem => ?_, fun allOk done mem => ?_⟩
    · have quiet := none fetch (schedule.symm.subset mem)
      split at quiet
      · cases quiet
      · exact ⟨_, ‹_›⟩
    · obtain ⟨block, fetched⟩ := allOk done (schedule.subset mem)
      simp [fetched]
  · funext blockHash
    apply Option.ext
    intro block
    exact (holds reordered order blockHash block).trans (holds completed schedule blockHash block).symm

/-- Block 1 fetched, and the fetch of block 2 answered with HTTP 429. -/
def sampleFetches : List (Hash × Except Error Block) :=
  [(1, .ok { BlockNumber := 1, BlockHash := 1, ParentHash := 0, ReceivedAt := 0 }), (2, .error (.http 429))]

/-- The failing goroutine completes first. -/
theorem retrieveBlocksInParallel_failure_first :
    ((retrieveBlocksInParallel sampleFetches.reverse).2 = none ↔
      ∀ fetch ∈ sampleFetches, ∃ block, fetch.2 = .ok block) ∧
    (∀ blockHash block, (retrieveBlocksInParallel sampleFetches.reverse).1 blockHash = some block ↔
      (blockHash, .ok block) ∈ sampleFetches) ∧
    (retrieveBlocksInParallel sampleFetches.reverse).2 = (failures sampleFetches.reverse).getLast? ∧
    ∀ reordered, reordered.Perm sampleFetches →
      (retrieveBlocksInParallel reordered).1 = (retrieveBlocksInParallel sampleFetches.reverse).1 :=
  retrieveBlocksInParallel_fetches (by simp [sampleFetches]; rintro _ _ _ - rfl - rfl; rfl) (List.reverse_perm _)

end SynchronizerL1.Etherman
