import SynchronizerL1.Etherman.Auth
import Mathlib.Data.List.Perm.Basic

/-!
The gas price, chain id and upgrade block queries of `etherman.Client`.
-/

namespace SynchronizerL1.Etherman

/-- The body of the loop of `GetL1GasPrice`: a provider's price replaces a lower one
(`gasPrice.Cmp(gp) == -1`), and its error is logged and skipped. -/
def higherPrice (gasPrice : Int) (prov : GasPricer) : Int :=
  match prov.SuggestGasPrice with
  | .error _ => gasPrice
  | .ok gp => if gasPrice < gp then gp else gasPrice

/-- The prices the providers that answer suggest, in the providers' order. -/
def suggestedPrices (providers : List GasPricer) : List Int :=
  providers.filterMap (·.SuggestGasPrice.toOption)

namespace FullClient

variable (etherMan : FullClient)

/-- `GetL1GasPrice`. -/
def getL1GasPrice : Int :=
  etherMan.GasProviders.Providers.foldl higherPrice 0

/-- `SuggestedGasPrice`. -/
def suggestedGasPrice : Except ClientError Int :=
  let suggestedGasPrice := etherMan.getL1GasPrice
  if suggestedGasPrice = 0 then .error .suggestedGasPrice else .ok suggestedGasPrice

end FullClient

theorem higherPrice_right_comm (gasPrice : Int) (first second : GasPricer) :
    higherPrice (higherPrice gasPrice first) second = higherPrice (higherPrice gasPrice second) first := by
  unfold higherPrice
  cases first.SuggestGasPrice <;> cases second.SuggestGasPrice <;> simp only
  split_ifs <;> omega

/-- The loop never lowers the price, ends above every price suggested, and ends on its start or on
one of those prices. -/
theorem foldl_higherPrice (providers : List GasPricer) (gasPrice : Int) :
    gasPrice ≤ providers.foldl higherPrice gasPrice ∧
      (∀ gp ∈ suggestedPrices providers, gp ≤ providers.foldl higherPrice gasPrice) ∧
      (providers.foldl higherPrice gasPrice = gasPrice ∨
        providers.foldl higherPrice gasPrice ∈ suggestedPrices providers) := by
  induction providers generalizing gasPrice with
  | nil => simp [suggestedPrices]
  | cons prov rest inductionHypothesis =>
      obtain ⟨above, bounds, attained⟩ := inductionHypothesis (higherPrice gasPrice prov)
      rw [List.foldl_cons]
      cases answer : prov.SuggestGasPrice with
      | error cause =>
          have skipped : higherPrice gasPrice prov = gasPrice := by simp only [higherPrice, answer]
          have prices : suggestedPrices (prov :: rest) = suggestedPrices rest := by
            simp [suggestedPrices, answer, Except.toOption]
          rw [skipped] at above bounds attained ⊢
          rw [prices]
          exact ⟨above, bounds, attained⟩
      | ok gp =>
          have step : higherPrice gasPrice prov = if gasPrice < gp then gp else gasPrice := by
            simp only [higherPrice, answer]
          have prices : suggestedPrices (prov :: rest) = gp :: suggestedPrices rest := by
            simp [suggestedPrices, answer, Except.toOption]
          rw [prices, List.forall_mem_cons, List.mem_cons]
          generalize rest.foldl higherPrice (higherPrice gasPrice prov) = result at above bounds attained ⊢
          rw [step] at above attained
          split_ifs at above attained with lower
          · exact ⟨by omega, ⟨above, bounds⟩, .inr attained⟩
          · exact ⟨above, ⟨by omega, bounds⟩, attained.imp_right .inr⟩

/-- The providers' order does not change the gas price. -/
theorem getL1GasPrice_perm {etherMan other : FullClient}
    (reordered : other.GasProviders.Providers.Perm etherMan.GasProviders.Providers) :
    other.getL1GasPrice = etherMan.getL1GasPrice :=
  reordered.foldl_eq' (fun _ _ _ _ gasPrice => higherPrice_right_comm gasPrice _ _) 0

/-- The gas price is the highest price the providers that answer suggest, and zero when none
suggests a positive one; a provider's error is skipped, and the providers' order does not matter.
`SuggestedGasPrice` fails exactly when no provider suggests a positive price. -/
theorem getL1GasPrice_highest (etherMan : FullClient) :
    0 ≤ etherMan.getL1GasPrice ∧
      (∀ gp ∈ suggestedPrices etherMan.GasProviders.Providers, gp ≤ etherMan.getL1GasPrice) ∧
      (etherMan.getL1GasPrice = 0 ∨ etherMan.getL1GasPrice ∈ suggestedPrices etherMan.GasProviders.Providers) ∧
      (∀ other : FullClient, other.GasProviders.Providers.Perm etherMan.GasProviders.Providers →
        other.getL1GasPrice = etherMan.getL1GasPrice) ∧
      (etherMan.suggestedGasPrice = .error .suggestedGasPrice ↔
        ∀ gp ∈ suggestedPrices etherMan.GasProviders.Providers, gp ≤ 0) := by
  obtain ⟨above, bounds, attained⟩ := foldl_higherPrice etherMan.GasProviders.Providers 0
  refine ⟨above, bounds, attained, fun _ reordered => getL1GasPrice_perm reordered, ?_⟩
  simp only [FullClient.suggestedGasPrice]
  by_cases zero : etherMan.getL1GasPrice = 0
  · rw [if_pos zero]
    exact iff_of_true rfl fun gp mem => zero ▸ bounds gp mem
  · rw [if_neg zero]
    refine iff_of_false nofun fun nonpositive => zero ?_
    rcases attained with isZero | mem
    · exact isZero
    · exact Int.le_antisymm (nonpositive _ mem) above

/-- The part of the rollup manager's `rollupIDToRollupData` answer the package reads. -/
structure RollupData where
  ChainID : U64

namespace FullClient

variable (etherMan : FullClient)

/-- `GetL2ChainID`, given the old zkEVM contract's `chainID` view and the rollup manager's
`rollupIDToRollupData` view. The rollup manager is asked for the client's rollup when the first
call fails or answers 0, and its own answer 0 is an error. -/
def getL2ChainID (oldChainID : Except Error U64) (RollupIDToRollupData : U32 → Except Error RollupData) :
    Except ClientError U64 :=
  let fromRollupManager : Except ClientError U64 :=
    match RollupIDToRollupData etherMan.RollupID with
    | .error err => .error (.call err)
    | .ok rollupData => if rollupData.ChainID = 0 then .error .chainIDZero else .ok rollupData.ChainID
  match oldChainID with
  | .ok chainID => if chainID = 0 then fromRollupManager else .ok chainID
  | .error _ => fromRollupManager

/-- A chain id `GetL2ChainID` returns is never 0: it is the old zkEVM contract's when that one
answers a non-zero id, and the rollup manager's for the client's rollup otherwise. -/
theorem getL2ChainID_ok {oldChainID : Except Error U64} {RollupIDToRollupData : U32 → Except Error RollupData}
    {chainID : U64} (ok : etherMan.getL2ChainID oldChainID RollupIDToRollupData = .ok chainID) :
    chainID ≠ 0 ∧
      (oldChainID = .ok chainID ∨
        (∀ answered, oldChainID = .ok answered → answered = 0) ∧
          (·.ChainID) <$> RollupIDToRollupData etherMan.RollupID = .ok chainID) := by
  unfold getL2ChainID at ok
  have fallback : ∀ rollupAnswer : Except Error RollupData,
      (match rollupAnswer with
        | .error err => (.error (.call err) : Except ClientError U64)
        | .ok rollupData => if rollupData.ChainID = 0 then .error .chainIDZero else .ok rollupData.ChainID) =
          .ok chainID → chainID ≠ 0 ∧ (·.ChainID) <$> rollupAnswer = .ok chainID := by
    intro rollupAnswer answered
    cases rollupAnswer with
    | error err => cases answered
    | ok rollupData =>
        dsimp only at answered
        split_ifs at answered with zero
        cases answered
        exact ⟨zero, rfl⟩
  cases oldChainID with
  | error err =>
      obtain ⟨nonzero, read⟩ := fallback _ ok
      exact ⟨nonzero, .inr ⟨nofun, read⟩⟩
  | ok answered =>
      dsimp only at ok
      split_ifs at ok with zero
      · obtain ⟨nonzero, read⟩ := fallback _ ok
        exact ⟨nonzero, .inr ⟨fun _ same => (Except.ok.inj same) ▸ zero, read⟩⟩
      · cases ok
        exact ⟨zero, .inl rfl⟩

end FullClient

/-- `polygonrollupmanager.PolygonrollupmanagerInitialized`: the contract version and the raw log. -/
structure PolygonrollupmanagerInitialized where
  Version : UInt8
  Raw : Log

/-- `ETRogUpgradeVersion`. -/
def etrogUpgradeVersion : Nat := 2

/-- The loop over the iterator of `GetL1BlockUpgradeLxLy`: the block of the first event of the
Etrog version, and `ErrNotFound` once the iterator stops. -/
def firstUpgrade : List PolygonrollupmanagerInitialized → Except ClientError U64
  | [] => .error .ErrNotFound
  | event :: rest =>
      if event.Version.toNat = etrogUpgradeVersion then .ok event.Raw.BlockNumber else firstUpgrade rest

/-- `GetL1BlockUpgradeLxLy`, with `FilterInitialized` as the events its iterator yields from block 1
to the genesis block before `it.Next()` returns false; it returns false at the end and on an error
alike, and the iterator's error is never read. -/
def getL1BlockUpgradeLxLy (FilterInitialized : U64 → Option U64 → Except Error (List PolygonrollupmanagerInitialized))
    (genesisBlock : Option U64) : Except ClientError U64 :=
  match FilterInitialized 1 genesisBlock with
  | .error err => .error (.call err)
  | .ok events => firstUpgrade events

/-- The upgrade block is that of the first Etrog event the iterator yields; without one the answer
is `ErrNotFound`, also when the iterator stopped on an error. -/
theorem firstUpgrade_eq (events : List PolygonrollupmanagerInitialized) :
    firstUpgrade events =
      match events.find? (·.Version.toNat = etrogUpgradeVersion) with
      | some event => .ok event.Raw.BlockNumber
      | none => .error .ErrNotFound := by
  induction events with
  | nil => rfl
  | cons event rest inductionHypothesis =>
      by_cases etrog : event.Version.toNat = etrogUpgradeVersion
      · simp [firstUpgrade, etrog]
      · simp [firstUpgrade, etrog, inductionHypothesis]

end SynchronizerL1.Etherman
