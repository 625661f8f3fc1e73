import SynchronizerL1.L1CheckBlock.SafeBlock
import SynchronizerL1.Fmt
import Mathlib.Data.String.Basic

/-!
The text form of a block point with an offset, and the parser that reads it back with
`strings.Split` and `fmt.Sscanf`.
-/

namespace SynchronizerL1.L1CheckBlock

open SynchronizerL1.Fmt

/-- L1BlockPointWithOffsetDelimiter, one rune. -/
def l1BlockPointWithOffsetDelimiter : Char := '/'

/-- ToString. -/
def L1BlockPoint.toString (v : L1BlockPoint) : String :=
  if v = finalizedBlockNumber then "finalized"
  else if v = safeBlockNumber then "safe"
  else if v = pendingBlockNumber then "pending"
  else if v = lastBlockNumber then "latest"
  else "Unknown"

/-- String: fmt.Sprintf("%s%s%d", v.BlockPoint.ToString(), the delimiter, v.Offset). -/
def L1BlockPointWithOffset.string (v : L1BlockPointWithOffset) : String :=
  v.BlockPoint.toString ++ String.singleton l1BlockPointWithOffsetDelimiter ++ (fmtInteger v.Offset.toInt).asString

/-- StringToL1BlockPoint. With the error Go also returns FinalizedBlockNumber, which its caller
drops. -/
def stringToL1BlockPoint (s : String) : Except String L1BlockPoint :=
  match s with
  | "finalized" => .ok finalizedBlockNumber
  | "safe" => .ok safeBlockNumber
  | "pending" => .ok pendingBlockNumber
  | "latest" => .ok lastBlockNumber
  | _ => .error ("invalid L1BlockPoint string: " ++ s)

/-- strings.Split with a one-rune separator. -/
def split (s : String) (sep : Char) : List String :=
  (s.toList.splitOn sep).map List.asString

/-- StringToL1BlockPointWithOffset. Split never returns an empty list, so splitted[0] does not
panic; with an error Go also returns the value built so far, which no caller reads. -/
def stringToL1BlockPointWithOffset (s : String) : Except String L1BlockPointWithOffset := do
  let splitted := split s l1BlockPointWithOffsetDelimiter
  if splitted.length > 2 then
    throw ("invalid L1BlockPointWithOffset string: " ++ s ++ " (only 1 delimiter permitted)")
  let l1block ← stringToL1BlockPoint (splitted.headD "")
  match splitted with
  | [_, offsetText] =>
      match sscanf offsetText.toList with
      | (_, none) => throw ("invalid L1BlockPointWithOffset string: " ++ s ++ " (offset must be an integer)")
      | (offset, some i) =>
          if offset ≠ 1 then
            throw ("invalid L1BlockPointWithOffset string: " ++ s ++ " (only 1 offset permitted)")
          else pure ⟨l1block, BitVec.ofInt 64 i⟩
  | _ => pure ⟨l1block, 0⟩

theorem ofInt_toInt (offset : BitVec 64) : BitVec.ofInt 64 offset.toInt = offset := by
  apply BitVec.eq_of_toNat_eq
  have bounded := offset.isLt
  rw [BitVec.toNat_ofInt, BitVec.toInt_eq_toNat_cond]
  split <;> omega

/-- The four named points print a name without the delimiter that StringToL1BlockPoint reads
back. -/
theorem stringToL1BlockPoint_toString {p : L1BlockPoint}
    (named : p ∈ [finalizedBlockNumber, safeBlockNumber, pendingBlockNumber, lastBlockNumber]) :
    l1BlockPointWithOffsetDelimiter ∉ p.toString.toList ∧ stringToL1BlockPoint p.toString = .ok p := by
  simp only [List.mem_cons, List.mem_singleton, List.not_mem_nil, or_false] at named
  rcases named with rfl | rfl | rfl | rfl <;> exact ⟨by decide, rfl⟩

/-- Split at the one delimiter of a text. -/
theorem split_delimited {name offsetText : String} (nameClean : l1BlockPointWithOffsetDelimiter ∉ name.toList)
    (textClean : l1BlockPointWithOffsetDelimiter ∉ offsetText.toList) :
    split (name ++ String.singleton l1BlockPointWithOffsetDelimiter ++ offsetText) l1BlockPointWithOffsetDelimiter =
      [name, offsetText] := by
  have first := List.splitOnP_first (· == l1BlockPointWithOffsetDelimiter) name.toList
    (fun r mem same => nameClean (by simpa using (beq_iff_eq.mp same) ▸ mem)) l1BlockPointWithOffsetDelimiter
    (beq_self_eq_true _) offsetText.toList
  have single := List.splitOnP_eq_single (· == l1BlockPointWithOffsetDelimiter) offsetText.toList
    (fun r mem same => textClean (by simpa using (beq_iff_eq.mp same) ▸ mem))
  simp only [split, List.splitOn, String.toList, String.data_append, String.singleton, String.push,
    List.nil_append, List.append_assoc, List.singleton_append] at first single ⊢
  rw [first, single]
  rfl

theorem delimiter_not_mem_fmtInteger (v : Int) : l1BlockPointWithOffsetDelimiter ∉ fmtInteger v := by
  intro mem
  rcases mem_fmtInteger mem with minus | digit
  · exact absurd minus (by decide)
  · exact absurd digit (by decide)

/-- A named point, the delimiter, and a text without one from which Sscanf reads an int. -/
theorem stringToL1BlockPointWithOffset_scanned {p : L1BlockPoint} {offsetText : String} {i : Int}
    (named : p ∈ [finalizedBlockNumber, safeBlockNumber, pendingBlockNumber, lastBlockNumber])
    (textClean : l1BlockPointWithOffsetDelimiter ∉ offsetText.toList)
    (scanned : sscanf offsetText.toList = (1, some i)) :
    stringToL1BlockPointWithOffset (p.toString ++ String.singleton l1BlockPointWithOffsetDelimiter ++ offsetText) =
      .ok ⟨p, BitVec.ofInt 64 i⟩ := by
  obtain ⟨nameClean, parsed⟩ := stringToL1BlockPoint_toString named
  have scannedData : sscanf offsetText.data = (1, some i) := scanned
  simp [stringToL1BlockPointWithOffset, split_delimited nameClean textClean, parsed, scannedData]

theorem stringToL1BlockPointWithOffset_string (v : L1BlockPointWithOffset)
    (named : v.BlockPoint ∈ [finalizedBlockNumber, safeBlockNumber, pendingBlockNumber, lastBlockNumber]) :
    stringToL1BlockPointWithOffset v.string = .ok v := by
  have scanned := @sscanf_fmtInteger v.Offset [] [] (by simp) (by simp)
  rw [List.nil_append, List.append_nil, ← List.toList_asString (fmtInteger _)] at scanned
  have textClean := List.toList_asString (fmtInteger v.Offset.toInt) ▸ delimiter_not_mem_fmtInteger v.Offset.toInt
  rw [L1BlockPointWithOffset.string, stringToL1BlockPointWithOffset_scanned named textClean scanned, ofInt_toInt]

/-- The offset MinInt64, the one whose magnitude is not an int. -/
theorem stringToL1BlockPointWithOffset_min_offset :
    stringToL1BlockPointWithOffset (⟨safeBlockNumber, 0x8000000000000000⟩ : L1BlockPointWithOffset).string =
      .ok ⟨safeBlockNumber, 0x8000000000000000⟩ :=
  stringToL1BlockPointWithOffset_string _ (by decide)

/-- Modelled from the spec: the strings StringToL1BlockPointWithOffset reads as v. The name of
one of the four points, alone for the offset 0, or followed by the delimiter and a text without
one that Sscanf reads as the offset. -/
def ParsesAs (s : String) (v : L1BlockPointWithOffset) : Prop :=
  v.BlockPoint ∈ [finalizedBlockNumber, safeBlockNumber, pendingBlockNumber, lastBlockNumber] ∧
    (s = v.BlockPoint.toString ∧ v.Offset = 0 ∨
      ∃ offsetText i, l1BlockPointWithOffsetDelimiter ∉ offsetText ∧
        s = v.BlockPoint.toString ++ String.singleton l1BlockPointWithOffsetDelimiter ++ offsetText.asString ∧
        ScansAs offsetText i ∧ v.Offset = BitVec.ofInt 64 i)

theorem stringToL1BlockPoint_eq_ok {name : String} {p : L1BlockPoint} :
    stringToL1BlockPoint name = .ok p ↔
      p ∈ [finalizedBlockNumber, safeBlockNumber, pendingBlockNumber, lastBlockNumber] ∧ name = p.toString := by
  constructor
  · intro parsed
    unfold stringToL1BlockPoint at parsed
    split at parsed <;> cases parsed <;> exact ⟨by decide, rfl⟩
  · rintro ⟨named, rfl⟩
    exact (stringToL1BlockPoint_toString named).2

/-- No piece of a split holds the separator. -/
theorem not_mem_of_mem_splitOn {sep : Char} {text piece : List Char} (mem : piece ∈ text.splitOn sep) :
    sep ∉ piece := by
  induction text generalizing piece with
  | nil =>
      rw [List.splitOn_nil, List.mem_singleton] at mem
      rw [mem]
      exact List.not_mem_nil _
  | cons r text inductionHypothesis =>
      rw [List.splitOn, List.splitOnP_cons, ← List.splitOn] at mem
      split at mem
      · rcases List.mem_cons.mp mem with rfl | later
        · exact List.not_mem_nil _
        · exact inductionHypothesis later
      · obtain ⟨first, rest, pieces⟩ := List.exists_cons_of_ne_nil (List.splitOnP_ne_nil (· == sep) text)
        rw [← List.splitOn] at pieces
        rw [pieces, List.modifyHead_cons, List.mem_cons] at mem
        rcases mem with rfl | later
        · rintro (_ | ⟨_, inFirst⟩)
          · simp_all
          · exact inductionHypothesis (pieces ▸ List.mem_cons_self _ _) inFirst
        · exact inductionHypothesis (pieces ▸ List.mem_cons_of_mem _ later)

theorem split_of_not_mem {s : String} {sep : Char} (clean : sep ∉ s.toList) : split s sep = [s] := by
  rw [split, List.splitOn, List.splitOnP_eq_single _ _ fun r mem same => clean (by simpa using (beq_iff_eq.mp same) ▸ mem)]
  rfl

theorem map_toList_split (s : String) (sep : Char) : (split s sep).map String.toList = s.toList.splitOn sep := by
  rw [split, List.map_map]
  exact List.map_id'' List.toList_asString _

/-- Split's pieces hold no separator, and put back together with it they give the string. -/
theorem split_pieces (s : String) (sep : Char) :
    (∀ piece ∈ split s sep, sep ∉ piece.toList) ∧ [sep].intercalate ((split s sep).map String.toList) = s.toList := by
  rw [map_toList_split, List.intercalate_splitOn]
  exact ⟨fun piece mem => not_mem_of_mem_splitOn (map_toList_split s sep ▸ List.mem_map_of_mem _ mem), rfl⟩

theorem split_eq_singleton {s name : String} {sep : Char} (split : split s sep = [name]) :
    s = name ∧ sep ∉ name.toList := by
  obtain ⟨clean, joined⟩ := split_pieces s sep
  rw [split] at clean joined
  exact ⟨String.ext (by simpa [List.intercalate] using joined.symm), clean name (List.mem_singleton_self _)⟩

theorem split_eq_pair {s name offsetText : String} {sep : Char} (split : split s sep = [name, offsetText]) :
    s = name ++ String.singleton sep ++ offsetText ∧ sep ∉ name.toList ∧ sep ∉ offsetText.toList := by
  obtain ⟨clean, joined⟩ := split_pieces s sep
  rw [split] at clean joined
  refine ⟨String.ext (by simpa [List.intercalate] using joined.symm), clean name (by simp), clean offsetText (by simp)⟩

theorem split_ne_nil (s : String) (sep : Char) : split s sep ≠ [] := by
  simp [split, List.splitOn, List.splitOnP_ne_nil]

/-- The offset text "1_0" is read as 1. -/
example : stringToL1BlockPointWithOffset "safe/1_0" = .ok ⟨safeBlockNumber, 1⟩ := rfl

end SynchronizerL1.L1CheckBlock
