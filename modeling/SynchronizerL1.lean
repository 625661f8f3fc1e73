import SynchronizerL1.Etherman.Types
import SynchronizerL1.Etherman.Client
import SynchronizerL1.Etherman.Decode
import SynchronizerL1.Etherman.Events
import SynchronizerL1.Etherman.ReadEvents
import SynchronizerL1.Etherman.Buckets
import SynchronizerL1.Etherman.Refinement
import SynchronizerL1.Etherman.RangeReader
import SynchronizerL1.Etherman.Forks
import SynchronizerL1.Etherman.ParallelFetch
import SynchronizerL1.Etherman.NewClient
import SynchronizerL1.Etherman.Auth
import SynchronizerL1.Etherman.Queries
import SynchronizerL1.Etherman.RollupInfo
import SynchronizerL1.Fmt
import SynchronizerL1.L1CheckBlock.SafeBlock
import SynchronizerL1.L1CheckBlock.BlockPointString
