import SynchronizerL1.Etherman.Events
import Mathlib.Data.List.Perm.Basic

/-!
The Range Reader `readEvents`, with the order in which the goroutines of
`RetrieveBlocksInParallel` finish as an argument.
-/

namespace SynchronizerL1.Etherman

/-- The delays the 429 retry loop sleeps, in seconds. -/
def vectorDelaysInSeconds : List Nat := [30, 60, 120, 600]

namespace Client

variable (client : Client)

/-- The retry loop of `retrieveFullBlockbyHash`, entered with `remainingRetries` already
decremented: an HTTP 429 answer sleeps `vectorDelaysInSeconds[(4-remainingRetries)%4]` and calls
again while retries remain. Returns the last answer and the delays slept. -/
def retryBlockByHash (blockHash : Hash) : Nat → List Nat → Except Error FullBlock × List Nat
  | remainingRetries, slept =>
      let delay := vectorDelaysInSeconds.getD ((4 - remainingRetries) % 4) 0
      match client.EthClient.BlockByHash blockHash, remainingRetries with
      | .error (.http 429), 0 => (.error (.http 429), slept ++ [delay])
      | .error (.http 429), remaining + 1 => retryBlockByHash blockHash remaining (slept ++ [delay])
      | answer, _ => (answer, slept)

/-- `retrieveFullBlockbyHash`: the block as L1 reports it, with at most five calls. -/
def retrieveFullBlockbyHash (blockHash : Hash) : Except Error Block :=
  match (client.retryBlockByHash blockHash 4 []).1 with
  | .ok fullBlock =>
      .ok { BlockNumber := fullBlock.NumberU64, BlockHash := fullBlock.Hash,
            ParentHash := fullBlock.ParentHash, ReceivedAt := fullBlock.Time }
  | .error cause => .error (.gettingHashParent blockHash cause)

end Client

/-- One goroutine of `RetrieveBlocksInParallel` completing under the mutex: an error replaces
`err`, a block is stored under its hash. -/
def storeRetrieved (state : (Hash → Option Block) × Option Error) (done : Hash × Except Error Block) :
    (Hash → Option Block) × Option Error :=
  match done.2 with
  | .ok block => (Function.update state.1 done.1 (some block), state.2)
  | .error cause => (state.1, some cause)

/-- `RetrieveBlocksInParallel`, given the goroutines' results in the order they complete. -/
def retrieveBlocksInParallel (completed : List (Hash × Except Error Block)) :
    (Hash → Option Block) × Option Error :=
  completed.foldl storeRetrieved (fun _ => none, none)

/-- An order the scheduler may complete the goroutines in: any permutation of them. -/
structure Schedule where
  order : List (Hash × Except Error Block) → List (Hash × Except Error Block)
  perm : ∀ results, (order results).Perm results

/-- `getBlockHashesFromLogs`: one hash per log, repeats included. -/
def getBlockHashesFromLogs (logs : List Log) : List Hash :=
  logs.map (·.BlockHash)

/-- `logEvents` reads the first topic of every log before any is processed. -/
def logEvents : List Log → Except Failure Unit
  | [] => .ok ()
  | vLog :: rest => vLog.topic0 >>= fun _ => logEvents rest

/-- The pre-fetched block is appended before the handler when the log's block is not the head. -/
def appendRetrieved (blocksRetrieved : Hash → Option Block) (vLog : Log) (acc : Accumulators) :
    Accumulators :=
  if !isheadBlockInArray acc.blocks vLog.BlockHash vLog.BlockNumber then
    match blocksRetrieved vLog.BlockHash with
    | some block => { acc with blocks := acc.blocks ++ [block] }
    | none => acc
  else acc

namespace Client

variable (client : Client)

/-- The loop of `readEvents` over the logs; the debug line reads `Topics[0]` before the handler. -/
def processLogs (blocksRetrieved : Hash → Option Block) :
    List Log → Accumulators → Except Failure Accumulators
  | [], acc => .ok acc
  | vLog :: rest, acc => do
      let acc := appendRetrieved blocksRetrieved vLog acc
      let _ ← vLog.topic0
      let acc ← client.processEvent vLog acc
      processLogs blocksRetrieved rest acc

/-- The blocks of all logs, fetched by `RetrieveBlocksInParallel` when the configuration asks. -/
def prefetchBlocks (schedule : Schedule) (logs : List Log) :
    Except Failure (Hash → Option Block) :=
  if client.cfg.PararellBlockRequest then
    match retrieveBlocksInParallel (schedule.order
        ((getBlockHashesFromLogs logs).map fun blockHash =>
          (blockHash, client.retrieveFullBlockbyHash blockHash))) with
    | (blocksRetrieved, none) => .ok blocksRetrieved
    | (_, some cause) => .error (.error cause)
  else .ok fun _ => none

/-- `readEvents`. -/
def readEvents (schedule : Schedule) (query : FilterQuery) :
    Except Failure (List Block × (Hash → List Order)) := do
  let logs ← liftError (client.EthClient.FilterLogs query)
  let blocksRetrieved ← client.prefetchBlocks schedule logs
  logEvents logs
  let acc ← client.processLogs blocksRetrieved logs Accumulators.empty
  pure (acc.blocks, acc.blocksOrder)

end Client

end SynchronizerL1.Etherman
