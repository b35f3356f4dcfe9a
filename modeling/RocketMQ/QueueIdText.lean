import RocketMQ.QueryConsumerOffsetRequestHeader

namespace RocketMQ

/-!
# The queue id texts the header decoder reads

`FromMap::from` of `QueryConsumerOffsetRequestHeader` reads the queue id with
`value.parse::<i32>().unwrap()`.  This module says which texts that accepts and what it reads
from them: an optional `+` or `-`, then one or more ASCII digits whose value, with the sign, is
an `i32`.  Leading zeros are allowed.

The digit loop of `from_str_radix` checks a multiplication and an addition for every digit.
Its specification is the unchecked value of the digits; the loop agrees with it because no
prefix of the digits has a larger magnitude than the whole, so the checks refuse exactly the
texts whose value is out of range.
-/

/-- One step of reading decimal digits, most significant first. -/
def decimalStep (acc d : Nat) : Nat :=
  acc * 10 + d

/-- The number a text spells in decimal, most significant digit first; `none` when a
character is no digit. -/
def decimalValue (text : List Char) : Option Nat :=
  (text.mapM digitValue?).map (List.foldl decimalStep 0)

/-- The texts `str::parse` reads as an integer, with the integer each one spells: one or more
digits after an optional sign. -/
inductive IntegerText : List Char → Int → Prop
  | unsigned {digits : List Char} {n : Nat} (nonempty : digits ≠ [])
      (value : decimalValue digits = some n) : IntegerText digits n
  | plus {digits : List Char} {n : Nat} (nonempty : digits ≠ [])
      (value : decimalValue digits = some n) : IntegerText ('+' :: digits) n
  | minus {digits : List Char} {n : Nat} (nonempty : digits ≠ [])
      (value : decimalValue digits = some n) : IntegerText ('-' :: digits) (-n)

/-- A magnitude with the sign the digit loop accumulates it in. -/
def withSign (positive : Bool) (magnitude : Nat) : Int :=
  if positive then magnitude else -magnitude

@[simp] theorem withSign_true (magnitude : Nat) : withSign true magnitude = magnitude := rfl

@[simp] theorem withSign_false (magnitude : Nat) : withSign false magnitude = -magnitude := rfl

/-- Reading more digits never makes the value smaller. -/
theorem le_foldl_decimalStep (digits : List Nat) (acc : Nat) :
    acc ≤ digits.foldl decimalStep acc := by
  induction digits generalizing acc with
  | nil =>
      exact le_refl acc
  | cons d rest inductionHypothesis =>
      exact le_trans (Nat.le_mul_of_pos_right acc (by norm_num) |>.trans (Nat.le_add_right _ d))
        (inductionHypothesis (decimalStep acc d))

/-- A magnitude out of range stays out of range when it grows, with either sign. -/
theorem not_inSignedRange_of_le {positive : Bool} {small large : Nat} (le : small ≤ large)
    (outOfRange : ¬ InSignedRange bits (withSign positive small)) :
    ¬ InSignedRange bits (withSign positive large) := by
  cases positive <;>
    simp only [InSignedRange, withSign_true, withSign_false, not_and_or, not_le, not_lt]
      at outOfRange ⊢ <;> omega

/-- A text that opens with a character that is no digit is no digit text. -/
theorem mapM_digitValue_cons_none {c : Char} (rest : List Char) (digit : digitValue? c = none) :
    (c :: rest).mapM digitValue? = none := by
  simp only [List.mapM_cons, digit, Option.bind_eq_bind, Option.none_bind]

/-- A text that opens with a digit is a digit text when the rest is. -/
theorem mapM_digitValue_cons_some {c : Char} {d : Nat} (rest : List Char)
    (digit : digitValue? c = some d) :
    (c :: rest).mapM digitValue? = (rest.mapM digitValue?).map (d :: ·) := by
  simp only [List.mapM_cons, digit, Option.bind_eq_bind, Option.some_bind, Option.pure_def]
  cases rest.mapM digitValue? <;> rfl

/-- Reading one more digit after a digit text. -/
theorem decimalValue_append_digit (text : List Char) {c : Char} {d : Nat}
    (digit : digitValue? c = some d) :
    decimalValue (text ++ [c]) = (decimalValue text).map (decimalStep · d) := by
  simp only [decimalValue, List.mapM_append, digit, List.mapM_cons, List.mapM_nil]
  cases text.mapM digitValue? <;> simp [List.foldl_append]

/-- A printed number reads back as itself. -/
theorem decimalValue_decimalDigits (n : Nat) : decimalValue (decimalDigits n) = some n := by
  induction n using decimalDigits.induct with
  | case1 n small =>
      rw [decimalDigits, if_pos small, ← List.nil_append [_],
        decimalValue_append_digit [] (digitValue?_digitChar small),
        show decimalValue [] = some 0 from rfl, Option.map_some', decimalStep, zero_mul,
        zero_add]
  | case2 n large inductionHypothesis =>
      rw [decimalDigits, if_neg large,
        decimalValue_append_digit _ (digitValue?_digitChar (Nat.mod_lt n (by norm_num))),
        inductionHypothesis, Option.map_some', decimalStep]
      congr 1
      omega

namespace Signed

/-- The checked digit loop, from a result of magnitude `acc`, reads a text exactly when every
character is a digit and the value they spell after `acc` is in range; it reads that value. -/
theorem accumulateDigits_eq_ok_iff (positive : Bool) {acc : Nat} {result : Signed bits}
    (current : result.val = withSign positive acc) (text : List Char) {x : Signed bits} :
    accumulateDigits positive result text = .ok x ↔
      ∃ digits, text.mapM digitValue? = some digits ∧
        x.val = withSign positive (digits.foldl decimalStep acc) := by
  induction text generalizing acc result with
  | nil =>
      simp only [accumulateDigits, List.mapM_nil, Option.pure_def, Option.some.injEq,
        exists_eq_left', List.foldl_nil]
      exact ⟨fun same => by cases same; exact current,
        fun value => congrArg Except.ok (ext (current.trans value.symm))⟩
  | cons c rest inductionHypothesis =>
      cases digit : digitValue? c with
      | none =>
          simp only [accumulateDigits, digit, mapM_digitValue_cons_none rest digit]
          exact iff_of_false (fun same => nomatch same) fun ⟨_, unspelled, _⟩ => nomatch unspelled
      | some d =>
          have outOfRange : ∀ {small : Nat}, small ≤ decimalStep acc d →
              ¬ InSignedRange bits (withSign positive small) →
              ¬ ∃ tail, rest.mapM digitValue? = some tail ∧
                x.val = withSign positive (tail.foldl decimalStep (decimalStep acc d)) :=
            fun le small ⟨tail, _, value⟩ => not_inSignedRange_of_le
              (le.trans (le_foldl_decimalStep tail _)) small (value ▸ x.inRange)
          have scaledVal : result.val * 10 = withSign positive (acc * 10) := by
            cases positive <;> simp [current]
          have nextVal : (if positive then result.val * 10 + d else result.val * 10 - d) =
              withSign positive (decimalStep acc d) := by
            cases positive <;> simp [current, decimalStep]
            omega
          rw [mapM_digitValue_cons_some rest digit]
          simp only [accumulateDigits, digit, Option.map_eq_some', exists_exists_and_eq_and,
            List.foldl_cons]
          by_cases scaledRange : InSignedRange bits (result.val * 10)
          · rw [ofInt?_eq_some scaledRange]
            dsimp only
            rw [nextVal]
            by_cases nextRange : InSignedRange bits (withSign positive (decimalStep acc d))
            · rw [ofInt?_eq_some nextRange]
              exact inductionHypothesis rfl
            · rw [ofInt?_eq_none nextRange]
              exact iff_of_false (fun same => nomatch same) (outOfRange le_rfl nextRange)
          · rw [ofInt?_eq_none scaledRange]
            exact iff_of_false (fun same => nomatch same)
              (outOfRange (Nat.le_add_right _ d) (scaledVal ▸ scaledRange))

/-- From zero, the digit loop reads exactly the texts of digits whose value is in range. -/
theorem accumulateDigits_zero_eq_ok_iff (positive : Bool) (digits : List Char)
    {x : Signed bits} :
    accumulateDigits positive zero digits = .ok x ↔
      ∃ n, decimalValue digits = some n ∧ x.val = withSign positive n := by
  rw [accumulateDigits_eq_ok_iff positive
    (show (zero : Signed bits).val = withSign positive 0 by cases positive <;> rfl)]
  simp only [decimalValue, Option.map_eq_some', exists_exists_and_eq_and]

/-- Without a sign, `parse` runs the digit loop on the whole text. -/
theorem parse_unsigned {c : Char} (rest : List Char) (notPlus : c ≠ '+') (notMinus : c ≠ '-') :
    (parse (c :: rest) : Except IntErrorKind (Signed bits)) =
      accumulateDigits true zero (c :: rest) := by
  unfold parse
  split <;> simp_all

/-- What `str::parse` reads as a signed integer is an integer text that spells it. -/
theorem integerText_of_parse_eq_ok {text : List Char} {x : Signed bits}
    (parsed : parse text = .ok x) : IntegerText text x.val := by
  rcases text with _ | ⟨c, rest⟩
  · cases parsed
  by_cases plus : c = '+'
  · subst plus
    rcases rest with _ | ⟨d, digits⟩
    · cases parsed
    obtain ⟨n, value, sign⟩ := (accumulateDigits_zero_eq_ok_iff true _).mp parsed
    rw [sign, withSign_true]
    exact .plus (List.cons_ne_nil _ _) value
  by_cases minus : c = '-'
  · subst minus
    rcases rest with _ | ⟨d, digits⟩
    · cases parsed
    obtain ⟨n, value, sign⟩ := (accumulateDigits_zero_eq_ok_iff false _).mp parsed
    rw [sign, withSign_false]
    exact .minus (List.cons_ne_nil _ _) value
  rw [parse_unsigned rest plus minus, accumulateDigits_zero_eq_ok_iff] at parsed
  obtain ⟨n, value, sign⟩ := parsed
  rw [sign, withSign_true]
  exact .unsigned (List.cons_ne_nil _ _) value

/-- `str::parse` reads every integer text that spells a value in range. -/
theorem parse_eq_ok_of_integerText {text : List Char} {x : Signed bits}
    (integerText : IntegerText text x.val) : parse text = .ok x := by
  generalize valueEq : x.val = value at integerText
  cases integerText with
  | @unsigned digits n nonempty spelled =>
      obtain ⟨c, rest, rfl⟩ := List.exists_cons_of_ne_nil nonempty
      have isDigit : (digitValue? c).isSome := by
        cases digit : digitValue? c
        · rw [decimalValue, mapM_digitValue_cons_none rest digit] at spelled
          cases spelled
        · rfl
      have notSign : ∀ sign, digitValue? sign = none → c ≠ sign :=
        fun sign noDigit same => by simp [same, noDigit] at isDigit
      rw [parse_unsigned rest (notSign '+' rfl) (notSign '-' rfl)]
      exact (accumulateDigits_zero_eq_ok_iff true _).mpr ⟨n, spelled, valueEq⟩
  | @plus digits n nonempty spelled =>
      obtain ⟨c, rest, rfl⟩ := List.exists_cons_of_ne_nil nonempty
      exact (accumulateDigits_zero_eq_ok_iff true _).mpr ⟨n, spelled, valueEq⟩
  | @minus digits n nonempty spelled =>
      obtain ⟨c, rest, rfl⟩ := List.exists_cons_of_ne_nil nonempty
      exact (accumulateDigits_zero_eq_ok_iff false _).mpr ⟨n, spelled, valueEq⟩

/-- `str::parse` of a signed integer reads exactly the integer texts whose value is in range,
and reads that value. -/
theorem parse_eq_ok_iff {text : List Char} {x : Signed bits} :
    parse text = .ok x ↔ IntegerText text x.val :=
  ⟨integerText_of_parse_eq_ok, parse_eq_ok_of_integerText⟩

end Signed

namespace QueryConsumerOffsetRequestHeader

/-- The decoder reads a header with queue id `queueId` exactly when the queue id key is unbound
and `queueId` is zero, or bound to an integer text that spells `queueId`. -/
theorem fromMap_queueId_iff (map : HeaderMap) (queueId : I32) :
    (∃ header, fromMap map = .ok header ∧ header.queueId = queueId) ↔
      (map.get queueIdKey = none ∧ queueId = Signed.zero) ∨
        ∃ text, map.get queueIdKey = some text ∧ IntegerText text.toList queueId.val := by
  simp only [fromMap, TopicRequestHeader.fromMap_eq, Outcome.ofExcept_ok, Outcome.pure_eq]
  cases bound : map.get queueIdKey with
  | none =>
      simp [decodeQueueId, eq_comm]
  | some text =>
      have readsIntegerText : ∀ x : I32, Signed.parse text.data = .ok x ↔
          IntegerText text.data x.val :=
        fun _ => ⟨Signed.integerText_of_parse_eq_ok, Signed.parse_eq_ok_of_integerText⟩
      cases parsed : (Signed.parse text.data : Except IntErrorKind I32) <;>
        simp [decodeQueueId, ← readsIntegerText, parsed]

end QueryConsumerOffsetRequestHeader

end RocketMQ
