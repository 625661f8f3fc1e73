import Mathlib.Data.List.Basic
import Mathlib.Algebra.Group.Nat.Basic
import Mathlib.Data.Nat.Digits

/-!
The parts of Go's fmt and strconv the block-point parser relies on: printing an int with the verb
d, `Sscanf` scanning one, and `strconv.ParseInt` in base 10.
-/

namespace SynchronizerL1.Fmt

/-! ### Printing -/

/-- fmt.fmtInteger for the verb d and a signed value: the digits of its magnitude, written from
the last one (as Nat.toDigits writes them), after a minus sign when the value is negative. -/
def fmtInteger (v : Int) : List Char :=
  (if v < 0 then ['-'] else []) ++ Nat.toDigits 10 v.natAbs

/-! ### strconv -/

/-- One rune of strconv.ParseUint in base 10: a rune that is not a decimal digit is a syntax
error, and a value past 2^64 - 1 a range error. -/
def parseDigit (n : Option Nat) (c : Char) : Option Nat :=
  n.bind fun n =>
    if c.isDigit then
      if n * 10 + (c.toNat - 48) < 2 ^ 64 then some (n * 10 + (c.toNat - 48)) else none
    else none

/-- strconv.ParseUint(s, 10, 64); an underscore is only read in base 0. -/
def parseUint (s : List Char) : Option Nat :=
  if s = [] then none else s.foldl parseDigit (some 0)

/-- The sign strconv.ParseInt picks off the front: whether it is a minus, and the rest. -/
def pickSign : List Char → Bool × List Char
  | '+' :: s => (false, s)
  | '-' :: s => (true, s)
  | s => (false, s)

/-- strconv.ParseInt(s, 10, 64). -/
def parseInt (s : List Char) : Option Int :=
  if s = [] then none
  else
    let (neg, digits) := pickSign s
    (parseUint digits).bind fun un =>
      if !neg && 2 ^ 63 ≤ un then none
      else if neg && 2 ^ 63 < un then none
      else some (if neg then -(un : Int) else un)

/-! ### Scanning -/

/-- The ranges of fmt's space table, in order. -/
def space : List (Nat × Nat) :=
  [(0x0009, 0x000d), (0x0020, 0x0020), (0x0085, 0x0085), (0x00a0, 0x00a0), (0x1680, 0x1680),
    (0x2000, 0x200a), (0x2028, 0x2029), (0x202f, 0x202f), (0x205f, 0x205f), (0x3000, 0x3000)]

/-- The loop of fmt's isSpace over the ordered table. -/
def inSpace (rx : Nat) : List (Nat × Nat) → Bool
  | [] => false
  | rng :: rest => if rx < rng.1 then false else if rx ≤ rng.2 then true else inSpace rx rest

/-- fmt's isSpace. -/
def isSpace (r : Char) : Bool :=
  if 2 ^ 16 ≤ r.toNat then false else inSpace r.toNat space

/-- ss.SkipSpace as Sscanf runs it, where a newline is not a space: the input after the spaces,
none for the error "unexpected newline". A carriage return right before a newline is passed
over, and the newline is then the error. -/
def skipSpace : List Char → Option (List Char)
  | [] => some []
  | r :: rest =>
      if r = '\r' ∧ rest.head? = some '\n' then skipSpace rest
      else if r = '\n' then none
      else if isSpace r then skipSpace rest
      else some (r :: rest)

/-- decimalDigits, the runes the verb d scans: "0123456789" (the underscore is added for the verb v
only). -/
def decimalDigits : List Char := ['0', '1', '2', '3', '4', '5', '6', '7', '8', '9']

/-- sign. -/
def sign : List Char := ['+', '-']

/-- ss.accept: the next rune goes into the token when it is one of ok. The token part and the
input after it. -/
def accept (ok : List Char) : List Char → List Char × List Char
  | [] => ([], [])
  | r :: rest => if r ∈ ok then ([r], rest) else ([], r :: rest)

/-- ss.scanInt for the verb d and a 64-bit int: the value and the input after the number. At
the end of the input it fails with io.ErrUnexpectedEOF, and without a digit with "expected
integer". -/
def scanInt (input : List Char) : Option (Int × List Char) :=
  (skipSpace input).bind fun input =>
    if input = [] then none
    else
      let (signed, input) := accept sign input
      let (number, input) := input.span fun r => r ∈ decimalDigits
      if number = [] then none
      else (parseInt (signed ++ number)).map fun i => (i, input)

/-- fmt.Sscanf(str, "%d", &v) for an int v, over the runes of str: the number of operands filled
and the value stored in v, none when an error is returned (its text is not modelled). The input
after the number is not read; the width limit of 1 << 30 runes on one operand is not modelled. -/
def sscanf (str : List Char) : Nat × Option Int :=
  match (skipSpace str).bind scanInt with
  | some (i, _) => (1, some i)
  | none => (0, none)

/-! ### What Sscanf reads -/

/-- Modelled from the spec: the value of a string of decimal digits. -/
def decimalValue (digits : List Char) : Nat :=
  digits.foldl (fun n r => n * 10 + (r.toNat - 48)) 0

/-- Modelled from the spec: the texts the verb d of Sscanf reads as the int i. Spaces other than
a newline, an optional sign, decimal digits whose value with the sign is an int, and then any
text that does not go on with a digit. -/
def ScansAs (text : List Char) (i : Int) : Prop :=
  ∃ spaces signed digits rest, text = spaces ++ signed ++ digits ++ rest ∧
    (∀ r ∈ spaces, isSpace r = true ∧ r ≠ '\n') ∧ signed ∈ [[], ['+'], ['-']] ∧ digits ≠ [] ∧
    (∀ r ∈ digits, r.isDigit = true) ∧ (∀ r ∈ rest.head?, r ∉ decimalDigits) ∧
    if signed = ['-'] then decimalValue digits ≤ 2 ^ 63 ∧ i = -(decimalValue digits : Int)
    else decimalValue digits < 2 ^ 63 ∧ i = decimalValue digits

@[simp] theorem decimalValue_append_singleton (digits : List Char) (r : Char) :
    decimalValue (digits ++ [r]) = decimalValue digits * 10 + (r.toNat - 48) := by
  rw [decimalValue, List.foldl_append]
  rfl

theorem mem_decimalDigits_of_isDigit {r : Char} (digit : r.isDigit = true) : r ∈ decimalDigits := by
  have bounds : 48 ≤ r.toNat ∧ r.toNat ≤ 57 := by
    simp only [Char.isDigit, Bool.and_eq_true, decide_eq_true_eq] at digit
    exact digit
  have digits : ∀ n < 58, 48 ≤ n → Char.ofNat n ∈ decimalDigits := by decide
  rw [← Char.ofNat_toNat r]
  exact digits r.toNat (by omega) bounds.1

/-- The runes the verb d scans are not signs, spaces or newlines. -/
theorem decimalDigits_scan : ∀ r ∈ decimalDigits, r ∉ sign ∧ isSpace r = false ∧ r ≠ '\n' := by
  decide

/-! ### strconv.ParseInt -/

/-- The range check ParseUint makes at every digit fails exactly when the whole value does not
fit. -/
theorem foldl_parseDigit (digits : List Char) :
    digits.foldl parseDigit (some 0) =
      if (∀ r ∈ digits, r.isDigit = true) ∧ decimalValue digits < 2 ^ 64 then some (decimalValue digits)
      else none := by
  induction digits using List.reverseRecOn with
  | nil => rfl
  | append_singleton digits r inductionHypothesis =>
      rw [List.foldl_append, inductionHypothesis, List.foldl_cons, List.foldl_nil, decimalValue_append_singleton]
      simp only [List.forall_mem_append, List.mem_singleton, forall_eq]
      by_cases earlier : (∀ r ∈ digits, r.isDigit = true) ∧ decimalValue digits < 2 ^ 64
      · rw [if_pos earlier]
        by_cases digit : r.isDigit = true
        · simp [parseDigit, digit, eq_true earlier.1]
        · simp [parseDigit, digit]
      · rw [if_neg earlier, if_neg fun later => earlier ⟨later.1.1, by have := later.2; omega⟩]
        rfl

theorem parseUint_eq_some {digits : List Char} {n : Nat} :
    parseUint digits = some n ↔
      digits ≠ [] ∧ (∀ r ∈ digits, r.isDigit = true) ∧ decimalValue digits < 2 ^ 64 ∧ n = decimalValue digits := by
  rw [parseUint]
  by_cases empty : digits = []
  · simp [empty]
  · rw [if_neg empty, foldl_parseDigit]
    by_cases valid : (∀ r ∈ digits, r.isDigit = true) ∧ decimalValue digits < 2 ^ 64
    · rw [if_pos valid, Option.some.injEq]
      exact ⟨fun value => ⟨empty, valid.1, valid.2, value.symm⟩, fun parsed => parsed.2.2.2.symm⟩
    · rw [if_neg valid]
      exact ⟨nofun, fun parsed => absurd ⟨parsed.2.1, parsed.2.2.1⟩ valid⟩

theorem pickSign_unsigned {r : Char} (unsigned : r ∉ sign) (tail : List Char) :
    pickSign (r :: tail) = (false, r :: tail) := by
  simp only [sign, List.mem_cons, List.mem_singleton, not_or] at unsigned
  unfold pickSign
  split <;> simp_all

/-- ParseInt once the sign is picked off: the digits' value, negated after a minus, and in the
range of an int. -/
theorem parseInt_eq_some {s digits : List Char} {neg : Bool} {i : Int} (nonempty : s ≠ [])
    (picked : pickSign s = (neg, digits)) :
    parseInt s = some i ↔ digits ≠ [] ∧ (∀ r ∈ digits, r.isDigit = true) ∧
      if neg then decimalValue digits ≤ 2 ^ 63 ∧ i = -(decimalValue digits : Int)
      else decimalValue digits < 2 ^ 63 ∧ i = decimalValue digits := by
  rw [parseInt, if_neg nonempty, picked]
  dsimp only
  rw [Option.bind_eq_some]
  cases neg
  · simp only [Bool.not_false, Bool.true_and, Bool.false_and, decide_eq_true_eq, Bool.false_eq_true, ite_false,
      parseUint_eq_some]
    constructor
    · rintro ⟨un, ⟨nonempty, allDigits, -, rfl⟩, checked⟩
      split_ifs at checked with big
      exact ⟨nonempty, allDigits, by omega, (Option.some.inj checked).symm⟩
    · rintro ⟨nonempty, allDigits, small, rfl⟩
      exact ⟨_, ⟨nonempty, allDigits, by omega, rfl⟩, by rw [if_neg (by omega)]⟩
  · simp only [Bool.not_true, Bool.true_and, Bool.false_and, decide_eq_true_eq, Bool.false_eq_true, ite_false,
      ite_true, parseUint_eq_some]
    constructor
    · rintro ⟨un, ⟨nonempty, allDigits, -, rfl⟩, checked⟩
      split_ifs at checked with big
      exact ⟨nonempty, allDigits, by omega, (Option.some.inj checked).symm⟩
    · rintro ⟨nonempty, allDigits, small, rfl⟩
      exact ⟨_, ⟨nonempty, allDigits, by omega, rfl⟩, by rw [if_neg (by omega)]⟩

/-! ### fmt's scanner -/

theorem skipSpace_spaces {spaces : List Char} (blank : ∀ r ∈ spaces, isSpace r = true ∧ r ≠ '\n')
    (input : List Char) : skipSpace (spaces ++ input) = skipSpace input := by
  induction spaces with
  | nil => rfl
  | cons r spaces inductionHypothesis =>
      obtain ⟨isBlank, notNewline⟩ := blank r (List.mem_cons_self _ _)
      rw [List.cons_append, skipSpace, if_neg notNewline, if_pos isBlank, ite_self,
        inductionHypothesis fun r mem => blank r (List.mem_cons_of_mem _ mem)]

/-- SkipSpace stops at a rune that is neither a space nor a newline. -/
theorem skipSpace_of_stop {input : List Char} (stop : ∀ r ∈ input.head?, isSpace r = false ∧ r ≠ '\n') :
    skipSpace input = some input := by
  cases input with
  | nil => rfl
  | cons r input =>
      obtain ⟨notSpace, notNewline⟩ := stop r rfl
      have notReturn : r ≠ '\r' := by
        rintro rfl
        cases notSpace
      rw [skipSpace, if_neg fun returned => notReturn returned.1, if_neg notNewline, if_neg (by simp [notSpace])]

/-- What SkipSpace passes over is spaces other than a newline, and it stops at a rune that is
neither. -/
theorem skipSpace_eq_some {text input : List Char} (skipped : skipSpace text = some input) :
    ∃ spaces, text = spaces ++ input ∧ (∀ r ∈ spaces, isSpace r = true ∧ r ≠ '\n') ∧
      ∀ r ∈ input.head?, isSpace r = false ∧ r ≠ '\n' := by
  induction text with
  | nil =>
      cases skipped
      exact ⟨[], rfl, nofun, nofun⟩
  | cons r text inductionHypothesis =>
      rw [skipSpace] at skipped
      by_cases returned : r = '\r' ∧ text.head? = some '\n'
      · rw [if_pos returned] at skipped
        obtain ⟨spaces, rfl, blank, stop⟩ := inductionHypothesis skipped
        rw [returned.1]
        exact ⟨'\r' :: spaces, rfl, List.forall_mem_cons.mpr ⟨by decide, blank⟩, stop⟩
      · rw [if_neg returned] at skipped
        by_cases newline : r = '\n'
        · rw [if_pos newline] at skipped
          cases skipped
        · rw [if_neg newline] at skipped
          by_cases space : isSpace r = true
          · rw [if_pos space] at skipped
            obtain ⟨spaces, rfl, blank, stop⟩ := inductionHypothesis skipped
            exact ⟨r :: spaces, rfl, List.forall_mem_cons.mpr ⟨⟨space, newline⟩, blank⟩, stop⟩
          · rw [if_neg space] at skipped
            cases skipped
            exact ⟨[], rfl, nofun, fun r' mem => by cases mem; exact ⟨by simpa using space, newline⟩⟩

theorem accept_sign_eq {text signed rest : List Char} (accepted : accept sign text = (signed, rest)) :
    text = signed ++ rest ∧ signed ∈ [[], ['+'], ['-']] := by
  cases text with
  | nil =>
      cases accepted
      exact ⟨rfl, by simp⟩
  | cons r text =>
      rw [accept] at accepted
      split at accepted
      · cases accepted
        rcases List.mem_cons.mp ‹r ∈ sign› with rfl | signed
        · simp
        · simp_all [sign]
      · cases accepted
        exact ⟨rfl, by simp⟩

/-- The three ways a number may start: what accept, pickSign and SkipSpace do there. -/
theorem signed_cases {signed : List Char} (signs : signed ∈ [[], ['+'], ['-']]) {r : Char}
    (run : r ∈ decimalDigits) (tail : List Char) :
    accept sign (signed ++ r :: tail) = (signed, r :: tail) ∧
      pickSign (signed ++ r :: tail) = (decide (signed = ['-']), r :: tail) ∧
      ∀ r' ∈ (signed ++ r :: tail).head?, isSpace r' = false ∧ r' ≠ '\n' := by
  obtain ⟨unsigned, notSpace, notNewline⟩ := decimalDigits_scan r run
  simp only [List.mem_cons, List.mem_singleton, List.not_mem_nil, or_false] at signs
  rcases signs with rfl | rfl | rfl
  · refine ⟨by simp [accept, unsigned], by rw [List.nil_append, pickSign_unsigned unsigned]; rfl, ?_⟩
    exact fun r' mem => by cases mem; exact ⟨notSpace, notNewline⟩
  all_goals exact ⟨rfl, rfl, fun r' mem => by cases mem; decide⟩

/-- ParseInt of a sign and a run that starts with a digit: the value ScansAs gives it. -/
theorem parseInt_signed {signed : List Char} (signs : signed ∈ [[], ['+'], ['-']]) {r : Char}
    (run : r ∈ decimalDigits) {tail : List Char} {i : Int} :
    parseInt (signed ++ r :: tail) = some i ↔ (∀ r' ∈ r :: tail, r'.isDigit = true) ∧
      if signed = ['-'] then decimalValue (r :: tail) ≤ 2 ^ 63 ∧ i = -(decimalValue (r :: tail) : Int)
      else decimalValue (r :: tail) < 2 ^ 63 ∧ i = decimalValue (r :: tail) := by
  rw [parseInt_eq_some (by simp) (signed_cases signs run tail).2.1]
  by_cases minus : signed = ['-'] <;> simp [minus]

/-- The digit run: the longest run of digits. -/
theorem span_run {digits rest : List Char} (run : ∀ r ∈ digits, r ∈ decimalDigits)
    (stop : ∀ r ∈ rest.head?, r ∉ decimalDigits) :
    (digits ++ rest).span (fun r => r ∈ decimalDigits) = (digits, rest) := by
  have allDigits : ∀ r ∈ digits, (decide (r ∈ decimalDigits)) = true := fun r mem => by simpa using run r mem
  rw [List.span_eq_take_drop, List.takeWhile_append_of_pos allDigits, List.dropWhile_append_of_pos allDigits]
  cases rest with
  | nil => simp
  | cons r rest => simp [List.takeWhile_cons, List.dropWhile_cons, stop r rfl]

theorem span_eq {text number rest : List Char}
    (spanned : text.span (fun r => r ∈ decimalDigits) = (number, rest)) :
    text = number ++ rest ∧ (∀ r ∈ number, r ∈ decimalDigits) ∧ ∀ r ∈ rest.head?, r ∉ decimalDigits := by
  rw [List.span_eq_take_drop, Prod.mk.injEq] at spanned
  obtain ⟨rfl, rfl⟩ := spanned
  refine ⟨(List.takeWhile_append_dropWhile _ _).symm, fun r mem => by simpa using List.mem_takeWhile_imp mem, ?_⟩
  intro r mem
  have nonempty : text.dropWhile (fun r => r ∈ decimalDigits) ≠ [] := by
    rintro empty
    rw [empty] at mem
    cases mem
  have stopped := List.head_dropWhile_not (fun r => decide (r ∈ decimalDigits)) text nonempty
  rw [List.head?_eq_head nonempty, Option.mem_def, Option.some.injEq] at mem
  simpa [mem] using stopped

theorem sscanf_snd_eq_some {text : List Char} {i : Int} :
    (sscanf text).2 = some i ↔ ∃ rest, (skipSpace text).bind scanInt = some (i, rest) := by
  rw [sscanf]
  rcases (skipSpace text).bind scanInt with _ | ⟨j, rest⟩
  · simp
  · simp [eq_comm]

/-- What Sscanf reads is a text of ScansAs. -/
theorem scansAs_of_sscanf {text : List Char} {i : Int} (scanned : (sscanf text).2 = some i) : ScansAs text i := by
  obtain ⟨rest, scanned⟩ := sscanf_snd_eq_some.mp scanned
  obtain ⟨input, skipped, read⟩ := Option.bind_eq_some.mp scanned
  obtain ⟨spaces, rfl, blank, stop⟩ := skipSpace_eq_some skipped
  rw [scanInt, skipSpace_of_stop stop, Option.some_bind] at read
  split_ifs at read with empty
  rcases accepted : accept sign input with ⟨signed, unsignedInput⟩
  rcases spanned : unsignedInput.span (fun r => r ∈ decimalDigits) with ⟨number, rest'⟩
  rw [accepted] at read
  dsimp only at read
  rw [spanned] at read
  dsimp only at read
  split_ifs at read with noNumber
  obtain ⟨j, parsed, same⟩ := Option.map_eq_some'.mp read
  obtain ⟨rfl, -⟩ := Prod.mk.inj same
  obtain ⟨rfl, signs⟩ := accept_sign_eq accepted
  obtain ⟨rfl, run, rest'Stop⟩ := span_eq spanned
  obtain ⟨r, tail, rfl⟩ := List.exists_cons_of_ne_nil noNumber
  obtain ⟨digits, value⟩ := (parseInt_signed signs (run r (List.mem_cons_self _ _))).mp parsed
  exact ⟨spaces, signed, r :: tail, rest', by simp, blank, signs, List.cons_ne_nil _ _, digits, rest'Stop, value⟩

/-- Sscanf reads every text of ScansAs, and fills its one operand: the check offset != 1 of
StringToL1BlockPointWithOffset never fires. -/
theorem sscanf_of_scansAs {text : List Char} {i : Int} (scans : ScansAs text i) : sscanf text = (1, some i) := by
  obtain ⟨spaces, signed, digits, rest, rfl, blank, signs, nonempty, allDigits, stop, value⟩ := scans
  obtain ⟨r, tail, rfl⟩ := List.exists_cons_of_ne_nil nonempty
  have run : ∀ r' ∈ r :: tail, r' ∈ decimalDigits := fun r' mem => mem_decimalDigits_of_isDigit (allDigits r' mem)
  obtain ⟨accepted, -, signStop⟩ := signed_cases signs (run r (List.mem_cons_self _ _)) (tail ++ rest)
  have parsed := (parseInt_signed signs (run r (List.mem_cons_self _ _))).mpr ⟨allDigits, value⟩
  rw [sscanf, List.append_assoc, List.append_assoc, skipSpace_spaces blank, List.cons_append,
    skipSpace_of_stop signStop, Option.some_bind, scanInt, skipSpace_of_stop signStop, Option.some_bind,
    if_neg (by simp), accepted]
  dsimp only
  rw [← List.cons_append, span_run run stop]
  dsimp only
  rw [if_neg (List.cons_ne_nil _ _), parsed]
  rfl

/-- An underscore is not a digit of the verb d: it ends the number. -/
example : sscanf "1_0".toList = (1, some 1) := rfl

/-! ### Decimal digits -/

theorem toDigitsCore_append (fuel n : Nat) (ds : List Char) :
    Nat.toDigitsCore 10 fuel n ds = Nat.toDigitsCore 10 fuel n [] ++ ds := by
  induction fuel generalizing n ds with
  | zero => rfl
  | succ fuel inductionHypothesis =>
      simp only [Nat.toDigitsCore]
      split
      · rfl
      · rw [inductionHypothesis _ (_ :: ds), inductionHypothesis _ [_], List.append_assoc]
        rfl

theorem toDigitsCore_fuel {fuel fuel' n : Nat} (enough : n < fuel) (enough' : n < fuel') (ds : List Char) :
    Nat.toDigitsCore 10 fuel n ds = Nat.toDigitsCore 10 fuel' n ds := by
  induction fuel generalizing fuel' n ds with
  | zero => omega
  | succ fuel inductionHypothesis =>
      obtain ⟨fuel', rfl⟩ : ∃ f, fuel' = f + 1 := ⟨fuel' - 1, by omega⟩
      simp only [Nat.toDigitsCore]
      split
      · rfl
      · exact inductionHypothesis (by omega) (by omega) _

/-- Nat.toDigits writes the last digit at the end, after the digits of the number divided by
ten: the loop of fmt.fmtInteger. -/
theorem toDigits_eq (u : Nat) :
    Nat.toDigits 10 u = (if u < 10 then [] else Nat.toDigits 10 (u / 10)) ++ [Nat.digitChar (u % 10)] := by
  rw [Nat.toDigits, Nat.toDigitsCore]
  split
  · rw [if_pos (by omega)]
    rfl
  · rw [if_neg (by omega), toDigitsCore_append, Nat.toDigits,
      @toDigitsCore_fuel u (u / 10 + 1) (u / 10) (by omega) (by omega) []]

theorem digitChar_isDigit : ∀ d < 10, (Nat.digitChar d).isDigit ∧ (Nat.digitChar d).toNat - 48 = d := by
  decide

theorem isDigit_of_mem_toDigits {u : Nat} {r : Char} (mem : r ∈ Nat.toDigits 10 u) : r.isDigit = true := by
  induction u using Nat.strong_induction_on with
  | _ u inductionHypothesis =>
      rw [toDigits_eq, List.mem_append, List.mem_singleton] at mem
      rcases mem with earlier | rfl
      · split at earlier
        · cases earlier
        · exact inductionHypothesis (u / 10) (by omega) earlier
      · exact (digitChar_isDigit _ (Nat.mod_lt _ (by omega))).1

theorem toDigits_ne_nil (u : Nat) : Nat.toDigits 10 u ≠ [] := by
  rw [toDigits_eq]
  simp

/-- The digits Nat.toDigits writes have the number's value. -/
theorem decimalValue_toDigits (u : Nat) : decimalValue (Nat.toDigits 10 u) = u := by
  induction u using Nat.strong_induction_on with
  | _ u inductionHypothesis =>
      have last := (digitChar_isDigit (u % 10) (Nat.mod_lt u (by omega))).2
      rw [toDigits_eq, decimalValue_append_singleton, last]
      split
      · rw [show decimalValue [] = 0 from rfl]
        omega
      · rw [inductionHypothesis (u / 10) (by omega)]
        omega

/-! ### The round trip -/

/-- The rendering of an int is an optional minus sign and digits. -/
theorem mem_fmtInteger {v : Int} {r : Char} (mem : r ∈ fmtInteger v) : r = '-' ∨ r.isDigit = true := by
  rw [fmtInteger, List.mem_append] at mem
  rcases mem with signPart | digits
  · split at signPart <;> simp_all
  · exact .inr (isDigit_of_mem_toDigits digits)

/-- Sscanf reads the rendering of an int back, after any spaces and before any text that does
not go on with a digit. -/
theorem fmtInteger_scansAs (v : BitVec 64) {spaces rest : List Char}
    (blank : ∀ r ∈ spaces, isSpace r = true ∧ r ≠ '\n') (stop : ∀ r ∈ rest.head?, r ∉ decimalDigits) :
    ScansAs (spaces ++ fmtInteger v.toInt ++ rest) v.toInt := by
  have bounded := v.isLt
  have range := BitVec.toInt_eq_toNat_cond v
  refine ⟨spaces, if v.toInt < 0 then ['-'] else [], Nat.toDigits 10 v.toInt.natAbs, rest,
    by simp only [fmtInteger, List.append_assoc], blank, by split <;> simp, toDigits_ne_nil _,
    fun r mem => isDigit_of_mem_toDigits mem, stop, ?_⟩
  rw [decimalValue_toDigits]
  by_cases negative : v.toInt < 0
  · rw [if_pos negative, if_pos rfl]
    split at range <;> omega
  · rw [if_neg negative, if_neg nofun]
    split at range <;> omega

theorem sscanf_fmtInteger (v : BitVec 64) {spaces rest : List Char}
    (blank : ∀ r ∈ spaces, isSpace r = true ∧ r ≠ '\n') (stop : ∀ r ∈ rest.head?, r ∉ decimalDigits) :
    sscanf (spaces ++ fmtInteger v.toInt ++ rest) = (1, some v.toInt) :=
  sscanf_of_scansAs (fmtInteger_scansAs v blank stop)

end SynchronizerL1.Fmt
