import SynchronizerL1.Etherman.Client
import Mathlib.Data.List.Infix
import Mathlib.Algebra.Group.Nat.Basic

/-!
`SafeL1BlockNumberFetch.GetSafeBlockNumber`: the L1 block number the synchronizer treats as
safe, read from the header L1 returns for a block point and moved by a signed offset.
-/

namespace SynchronizerL1.L1CheckBlock

open SynchronizerL1.Etherman

/-- `L1BlockPoint`, a Go `int`. -/
abbrev L1BlockPoint := BitVec 64

/-- `FinalizedBlockNumber`. -/
def finalizedBlockNumber : L1BlockPoint := 3

/-- `SafeBlockNumber`. -/
def safeBlockNumber : L1BlockPoint := 2

/-- `PendingBlockNumber`. -/
def pendingBlockNumber : L1BlockPoint := 1

/-- `LastBlockNumber`. -/
def lastBlockNumber : L1BlockPoint := 0

/-- go-ethereum's `rpc.FinalizedBlockNumber`. -/
def rpcFinalizedBlockNumber : Int := -3

/-- go-ethereum's `rpc.SafeBlockNumber`. -/
def rpcSafeBlockNumber : Int := -4

/-- go-ethereum's `rpc.PendingBlockNumber`. -/
def rpcPendingBlockNumber : Int := -1

/-- `ToGethRequest`: the tag of a block point, nil for the latest block. -/
def L1BlockPoint.toGethRequest (v : L1BlockPoint) : Option Int :=
  if v = finalizedBlockNumber then some rpcFinalizedBlockNumber
  else if v = pendingBlockNumber then some rpcPendingBlockNumber
  else if v = safeBlockNumber then some rpcSafeBlockNumber
  else if v = lastBlockNumber then none
  else some v.toInt

/-- `L1BlockPointWithOffset`; the offset is a Go `int`. -/
structure L1BlockPointWithOffset where
  BlockPoint : L1BlockPoint
  Offset : BitVec 64
  deriving DecidableEq, Repr

/-- `SafeL1BlockNumberFetch`. -/
abbrev SafeL1BlockNumberFetch := L1BlockPointWithOffset

/-- The part of a `types.Header` the fetch reads: its number as `Number.Uint64()` gives it. -/
structure Header where
  Number : U64
  deriving DecidableEq, Repr

/-- `L1Requester.HeaderByNumber`: a header, or an error with its text. -/
structure L1Requester where
  HeaderByNumber : Option Int → Except String Header

/-- `strings.Contains`. -/
def containsText (s substr : String) : Bool :=
  decide (substr.toList <:+: s.toList)

/-- `GetSafeBlockNumber`. After a `block not found` error the header is nil, and it is read all
the same. -/
def getSafeBlockNumber (p : SafeL1BlockNumberFetch) (requester : L1Requester) : Except Failure U64 := do
  let l1SafePointBlock : Option Header ←
    match requester.HeaderByNumber p.BlockPoint.toGethRequest with
    | .ok header => pure (some header)
    | .error err => if containsText err "block not found" then pure none else throw (.error (.rpc err))
  let number ← match l1SafePointBlock with
    | some header => pure header.Number
    | none => throw (.panic .nilPointerDereference)
  let blockNumber :=
    if p.Offset.slt 0 then
      if number < -p.Offset then 0 else number + p.Offset
    else number + p.Offset
  pure (if p.BlockPoint = lastBlockNumber then (if number < blockNumber then number else blockNumber)
    else blockNumber)

/-- Modelled from the spec: the base block moved by a signed offset, at 0 below the genesis and
modulo `2^64` above, and capped at the base for the latest block. -/
def offsetBlockNumber (blockPoint : L1BlockPoint) (base : Nat) (offset : Int) : Nat :=
  let shifted := if offset < 0 then base - (-offset).toNat else (base + offset.toNat) % 2 ^ 64
  if blockPoint = lastBlockNumber then min shifted base else shifted

/-- The offset arithmetic of `GetSafeBlockNumber` on `uint64`, read back in integers: `-Offset`
is the offset's magnitude for every negative offset, `MinInt64` included. -/
theorem toNat_offset (number offset : BitVec 64) :
    (if offset.slt 0 then (if number < -offset then 0 else number + offset) else number + offset).toNat =
      if offset.toInt < 0 then number.toNat - (-offset.toInt).toNat
      else (number.toNat + offset.toInt.toNat) % 2 ^ 64 := by
  have bounded := offset.isLt
  have numberBounded := number.isLt
  have zero : (0 : BitVec 64).toNat = 0 := rfl
  simp only [BitVec.slt, BitVec.toInt_eq_toNat_cond, apply_ite BitVec.toNat, BitVec.lt_def, BitVec.toNat_neg,
    BitVec.toNat_add, zero, decide_eq_true_eq]
  split_ifs <;> omega

theorem toNat_min (number shifted : U64) :
    (if number < shifted then number else shifted).toNat = min shifted.toNat number.toNat := by
  split_ifs with lower <;> rw [BitVec.lt_def] at lower <;> omega

theorem getSafeBlockNumber_header {p : SafeL1BlockNumberFetch} {requester : L1Requester} {header : Header}
    (answer : requester.HeaderByNumber p.BlockPoint.toGethRequest = .ok header) :
    BitVec.toNat <$> getSafeBlockNumber p requester =
      .ok (offsetBlockNumber p.BlockPoint header.Number.toNat p.Offset.toInt) := by
  simp only [getSafeBlockNumber, answer, offsetBlockNumber, pure_eq_ok, ok_bind, Except.map_ok, ← toNat_offset]
  by_cases latest : p.BlockPoint = lastBlockNumber
  · rw [if_pos latest, if_pos latest, toNat_min]
  · rw [if_neg latest, if_neg latest]

/-- The offset `MinInt64` moves a header of number `2^63 + 1` down to block 1. -/
theorem getSafeBlockNumber_min_offset :
    BitVec.toNat <$> getSafeBlockNumber ⟨safeBlockNumber, 0x8000000000000000⟩ ⟨fun _ => .ok ⟨0x8000000000000001⟩⟩ =
      .ok (offsetBlockNumber safeBlockNumber (0x8000000000000001 : U64).toNat (0x8000000000000000 : BitVec 64).toInt) :=
  getSafeBlockNumber_header rfl

example : getSafeBlockNumber ⟨safeBlockNumber, 0x8000000000000000⟩ ⟨fun _ => .ok ⟨0x8000000000000001⟩⟩ = .ok 1 :=
  rfl

theorem getSafeBlockNumber_block_not_found {p : SafeL1BlockNumberFetch} {requester : L1Requester} {err : String}
    (answer : requester.HeaderByNumber p.BlockPoint.toGethRequest = .error err)
    (notFound : containsText err "block not found" = true) :
    getSafeBlockNumber p requester = .error (.panic .nilPointerDereference) := by
  simp [getSafeBlockNumber, answer, notFound]

/-- geth's answer for the safe block of a chain that has none yet. -/
theorem getSafeBlockNumber_no_safe_block :
    containsText "safe block not found" "block not found" = true ∧
      getSafeBlockNumber ⟨safeBlockNumber, 0⟩ ⟨fun _ => .error "safe block not found"⟩ =
        .error (.panic .nilPointerDereference) :=
  ⟨by decide, getSafeBlockNumber_block_not_found rfl (by decide)⟩

end SynchronizerL1.L1CheckBlock
