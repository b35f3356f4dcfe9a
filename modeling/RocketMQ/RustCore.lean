import Mathlib.Tactic.NormNum
import Mathlib.Tactic.Positivity
import Mathlib.Tactic.IntervalCases

namespace RocketMQ

/-!
# Rust integers, outcomes and decimal text

The processor and the request headers hold Rust integers of fixed width: `i32` queue ids,
`i64` offsets and times, `u32` queue counts and `u64` clock readings.  Each is an integer
carrying its bounds, so an out-of-range value cannot be built.  The casts the source writes
with `as` wrap modulo the width.  Rust's `+` on `i64` panics on overflow in a build that
checks overflow (`-C overflow-checks`, the default of debug builds) and wraps otherwise;
the build is a parameter of the model.

Text is `i32::to_string` (the sign, then the digits of the magnitude) and `str::parse`
(`core::num::from_str_radix` in radix 10, with its error kinds).  The printer and the parser
agree on every value of every width.
-/

/-- How a call of Rust code ends: a value, an `Err` it returns, or a panic. -/
inductive Outcome (ε α : Type) where
  | ok : α → Outcome ε α
  | err : ε → Outcome ε α
  | panic : Outcome ε α
  deriving DecidableEq, Repr

namespace Outcome

/-- Sequencing with `?`: an `Err` or a panic stops the caller. -/
def bind (outcome : Outcome ε α) (next : α → Outcome ε β) : Outcome ε β :=
  match outcome with
  | .ok value => next value
  | .err error => .err error
  | .panic => .panic

instance : Monad (Outcome ε) where
  pure := .ok
  bind := bind

/-- A `Result` of library code, as an outcome that never panics. -/
def ofExcept : Except ε α → Outcome ε α
  | .ok value => .ok value
  | .error error => .err error

@[simp] theorem pure_eq (value : α) : (pure value : Outcome ε α) = .ok value := rfl

@[simp] theorem ok_bind (value : α) (next : α → Outcome ε β) :
    (Outcome.ok value >>= next) = next value := rfl

@[simp] theorem err_bind (error : ε) (next : α → Outcome ε β) :
    (Outcome.err error >>= next) = .err error := rfl

@[simp] theorem panic_bind (next : α → Outcome ε β) :
    ((Outcome.panic : Outcome ε α) >>= next) = .panic := rfl

@[simp] theorem ofExcept_ok (value : α) :
    ofExcept (.ok value : Except ε α) = .ok value := rfl

@[simp] theorem ofExcept_error (error : ε) :
    ofExcept (.error error : Except ε α) = .err error := rfl

/-- `Result::unwrap`: the value, or a panic on an `Err`. -/
def unwrap : Except ε' α → Outcome ε α
  | .ok value => .ok value
  | .error _ => .panic

@[simp] theorem unwrap_ok (value : α) :
    (unwrap (.ok value : Except ε' α) : Outcome ε α) = .ok value := rfl

@[simp] theorem unwrap_error (error : ε') :
    (unwrap (.error error : Except ε' α) : Outcome ε α) = .panic := rfl

end Outcome

@[simp] theorem except_ok_bind (value : α) (next : α → Except ε β) :
    ((Except.ok value : Except ε α) >>= next) = next value := rfl

@[simp] theorem except_error_bind (error : ε) (next : α → Except ε β) :
    ((Except.error error : Except ε α) >>= next) = .error error := rfl

/-- A bind of `Except` returns a value exactly when its first part does and the rest returns
that value from it. -/
theorem except_bind_eq_ok {first : Except ε α} {next : α → Except ε β} {value : β} :
    (first >>= next) = .ok value ↔ ∃ result, first = .ok result ∧ next result = .ok value := by
  cases first <;> simp

/-- The error type of the broker and remoting crates (`RocketmqError`), by its message. -/
structure RocketmqError where
  message : String
  deriving DecidableEq, Repr

/-- The range of a Rust signed integer of `bits` bits. -/
def InSignedRange (bits : Nat) (value : Int) : Prop :=
  -2 ^ (bits - 1) ≤ value ∧ value < 2 ^ (bits - 1)

instance (bits : Nat) : DecidablePred (InSignedRange bits) :=
  fun _ => inferInstanceAs (Decidable (_ ∧ _))

/-- A Rust signed integer of `bits` bits: `i32` or `i64`. -/
structure Signed (bits : Nat) where
  val : Int
  inRange : InSignedRange bits val

/-- A Rust unsigned integer of `bits` bits: `u32` or `u64`. -/
structure Unsigned (bits : Nat) where
  val : Nat
  lt : val < 2 ^ bits

/-- Rust `i32`. -/
abbrev I32 := Signed 32

/-- Rust `i64`. -/
abbrev I64 := Signed 64

/-- Rust `u32`. -/
abbrev U32 := Unsigned 32

/-- Rust `u64`. -/
abbrev U64 := Unsigned 64

/-- Half the modulus bounds the magnitude of a signed value from above. -/
theorem two_pow_le_two_mul (bits : Nat) : (2 : Int) ^ bits ≤ 2 * 2 ^ (bits - 1) := by
  cases bits with
  | zero =>
      norm_num
  | succ bits =>
      simp [pow_succ, mul_comm]

/-- The modulus is twice the bound of a signed value of positive width. -/
theorem two_pow_eq_two_mul {bits : Nat} (widthPos : 0 < bits) :
    (2 : Int) ^ bits = 2 * 2 ^ (bits - 1) := by
  obtain ⟨width, rfl⟩ : ∃ width, bits = width + 1 := ⟨bits - 1, by omega⟩
  simp [pow_succ, mul_comm]

namespace Signed

instance : DecidableEq (Signed bits) := fun x y =>
  decidable_of_iff (x.val = y.val) (by cases x; cases y; simp)

@[ext] theorem ext {x y : Signed bits} (sameValue : x.val = y.val) : x = y := by
  cases x; cases y; cases sameValue; rfl

/-- The value zero. -/
def zero : Signed bits :=
  ⟨0, by constructor <;> simp [pow_pos]⟩

@[simp] theorem zero_val : (zero : Signed bits).val = 0 := rfl

/-- The value `value` when it is in range (a checked operation's `Some`). -/
def ofInt? (value : Int) : Option (Signed bits) :=
  if inRange : InSignedRange bits value then some ⟨value, inRange⟩ else none

theorem ofInt?_eq_some {value : Int} (inRange : InSignedRange bits value) :
    ofInt? value = some ⟨value, inRange⟩ := by
  simp [ofInt?, inRange]

theorem ofInt?_eq_none {value : Int} (outOfRange : ¬ InSignedRange bits value) :
    (ofInt? value : Option (Signed bits)) = none := by
  simp [ofInt?, outOfRange]

/-- Two's-complement reduction of an integer to `bits` bits. -/
def wrap (value : Int) : Signed bits :=
  if low : value % 2 ^ bits < 2 ^ (bits - 1) then
    ⟨value % 2 ^ bits, by
      have := Int.emod_nonneg value (by positivity : (2 : Int) ^ bits ≠ 0)
      constructor <;> omega⟩
  else
    ⟨value % 2 ^ bits - 2 ^ bits, by
      have := Int.emod_lt_of_pos value (by positivity : (0 : Int) < 2 ^ bits)
      have := two_pow_le_two_mul bits
      constructor <;> omega⟩

/-- Wrapping leaves an in-range value unchanged. -/
theorem wrap_of_inRange (widthPos : 0 < bits) {value : Int}
    (inRange : InSignedRange bits value) :
    (wrap value : Signed bits).val = value := by
  have doubled := two_pow_eq_two_mul widthPos
  have halfPos : (0 : Int) < 2 ^ (bits - 1) := by positivity
  obtain ⟨lower, upper⟩ := inRange
  by_cases nonneg : 0 ≤ value
  · have : value % 2 ^ bits = value := Int.emod_eq_of_lt nonneg (by omega)
    simp [wrap, this, upper]
  · have shifted : value % 2 ^ bits = value + 2 ^ bits := by
      rw [← Int.add_emod_self]
      exact Int.emod_eq_of_lt (by omega) (by omega)
    have : ¬ value + 2 ^ bits < 2 ^ (bits - 1) := by omega
    simp [wrap, shifted, this]

/-- Two's-complement reduction keeps the residue modulo `2 ^ bits`. -/
theorem wrap_emod (value : Int) : (wrap value : Signed bits).val % 2 ^ bits = value % 2 ^ bits := by
  unfold wrap
  split
  · exact Int.emod_emod _ _
  · simp only [Int.sub_emod, Int.emod_self, sub_zero, Int.emod_emod]

/-- `+` on a signed integer: the exact sum when it fits, otherwise a panic under overflow
checks and the two's-complement wrap without them. -/
def add (overflowChecks : Bool) (x y : Signed bits) : Outcome ε (Signed bits) :=
  match ofInt? (x.val + y.val) with
  | some sum => .ok sum
  | none => if overflowChecks then .panic else .ok (wrap (x.val + y.val))

/-- An addition that fits gives the exact sum in every build. -/
theorem add_of_inRange (overflowChecks : Bool) {x y : Signed bits}
    (fits : InSignedRange bits (x.val + y.val)) :
    (add overflowChecks x y : Outcome ε (Signed bits)) = .ok ⟨x.val + y.val, fits⟩ := by
  simp [add, ofInt?_eq_some fits]

/-- An addition that overflows panics under overflow checks. -/
theorem add_of_overflow {x y : Signed bits}
    (overflows : ¬ InSignedRange bits (x.val + y.val)) :
    (add true x y : Outcome ε (Signed bits)) = .panic := by
  simp [add, ofInt?_eq_none overflows]

/-- `+` returns the two's-complement wrap of the sum whenever it does not panic: in a build
without overflow checks, or when the sum fits. -/
theorem add_eq_wrap (widthPos : 0 < bits) {overflowChecks : Bool} {x y : Signed bits}
    (returns : overflowChecks = false ∨ InSignedRange bits (x.val + y.val)) :
    (add overflowChecks x y : Outcome ε (Signed bits)) = .ok (wrap (x.val + y.val)) := by
  by_cases fits : InSignedRange bits (x.val + y.val)
  · rw [add_of_inRange overflowChecks fits]
    exact congrArg _ (ext (wrap_of_inRange widthPos fits).symm)
  · obtain rfl := returns.resolve_right fits
    simp [add, ofInt?_eq_none fits]

/-- The exact sum of two values lies below `2 ^ bits`, where their unsigned cast wraps. -/
theorem val_add_lt (widthPos : 0 < bits) (x y : Signed bits) : x.val + y.val < 2 ^ bits := by
  have doubled := two_pow_eq_two_mul widthPos
  have xBelow := x.inRange.2
  have yBelow := y.inRange.2
  omega

end Signed

namespace Unsigned

@[ext] theorem ext {x y : Unsigned bits} (sameValue : x.val = y.val) : x = y := by
  cases x; cases y; cases sameValue; rfl

instance : DecidableEq (Unsigned bits) := fun x y =>
  decidable_of_iff (x.val = y.val) (by cases x; cases y; simp)

/-- Reduction of an integer modulo `2 ^ bits`. -/
def wrap (value : Int) : Unsigned bits :=
  ⟨(value % 2 ^ bits).toNat, by
    have := Int.emod_lt_of_pos value (by positivity : (0 : Int) < 2 ^ bits)
    have cast : ((2 ^ bits : Nat) : Int) = 2 ^ bits := by push_cast; rfl
    omega⟩

/-- `x as iN`: the same bits read as a signed integer. -/
def asSigned (x : Unsigned bits) : Signed bits :=
  Signed.wrap x.val

/-- A count below `2 ^ (bits - 1)` keeps its value under `as`. -/
theorem asSigned_val_of_lt (widthPos : 0 < bits) {x : Unsigned bits}
    (small : x.val < 2 ^ (bits - 1)) :
    x.asSigned.val = x.val := by
  have halfPos : (0 : Int) < 2 ^ (bits - 1) := by positivity
  exact Signed.wrap_of_inRange widthPos ⟨by omega, by exact_mod_cast small⟩

end Unsigned

/-- `x as uN` for a signed integer: the same bits read as an unsigned integer. -/
def Signed.asUnsigned (x : Signed bits) : Unsigned bits :=
  Unsigned.wrap x.val

/-- `as uN` after a two's-complement reduction reads the original integer modulo
`2 ^ bits`. -/
theorem Signed.wrap_asUnsigned (value : Int) :
    (Signed.wrap value : Signed bits).asUnsigned = Unsigned.wrap value := by
  ext
  simp only [asUnsigned, Unsigned.wrap, Signed.wrap_emod]

/-- Below the modulus, reduction keeps an integer exactly when it is not negative. -/
theorem Unsigned.wrap_val_eq_iff {value : Int} (small : value < 2 ^ bits) :
    ((Unsigned.wrap value : Unsigned bits).val : Int) = value ↔ 0 ≤ value := by
  constructor
  · intro kept
    rw [← kept]
    exact Int.natCast_nonneg _
  · intro nonneg
    simp [Unsigned.wrap, Int.emod_eq_of_lt nonneg small, Int.toNat_of_nonneg nonneg]

/-! ## Decimal text -/

/-- The decimal digits of `n`, most significant first and without leading zeros. -/
def decimalDigits (n : Nat) : List Char :=
  if n < 10 then [Nat.digitChar n] else decimalDigits (n / 10) ++ [Nat.digitChar (n % 10)]
decreasing_by omega

/-- `char::to_digit(10)`. -/
def digitValue? (c : Char) : Option Nat :=
  if '0' ≤ c ∧ c ≤ '9' then some (c.toNat - '0'.toNat) else none

/-- A digit's character reads back as the digit. -/
@[simp] theorem digitValue?_digitChar {d : Nat} (isDigit : d < 10) :
    digitValue? (Nat.digitChar d) = some d := by
  interval_cases d <;> rfl

/-- A printed number starts with a digit, so never with a sign. -/
theorem decimalDigits_head (n : Nat) :
    ∃ d rest, d < 10 ∧ decimalDigits n = Nat.digitChar d :: rest := by
  induction n using decimalDigits.induct with
  | case1 n small =>
      exact ⟨n, [], small, by rw [decimalDigits, if_pos small]⟩
  | case2 n large inductionHypothesis =>
      obtain ⟨d, rest, isDigit, shape⟩ := inductionHypothesis
      exact ⟨d, rest ++ [Nat.digitChar (n % 10)], isDigit,
        by rw [decimalDigits, if_neg large, shape, List.cons_append]⟩

/-- The error kinds of `core::num::ParseIntError`. -/
inductive IntErrorKind where
  | empty
  | invalidDigit
  | posOverflow
  | negOverflow
  deriving DecidableEq, Repr

namespace Signed

/-- `to_string` of a Rust signed integer: a minus sign when negative, then the digits of the
magnitude. -/
def toText (x : Signed bits) : List Char :=
  if x.val < 0 then '-' :: decimalDigits x.val.natAbs else decimalDigits x.val.natAbs

/-- The digit loop of `from_str_radix`: each character must be a digit, then the result is
`checked_mul(10)` and `checked_add` (positive) or `checked_sub` (negative) of its value. -/
def accumulateDigits (positive : Bool) :
    Signed bits → List Char → Except IntErrorKind (Signed bits)
  | result, [] => .ok result
  | result, c :: rest =>
      match digitValue? c with
      | none => .error .invalidDigit
      | some x =>
          let overflow := if positive then IntErrorKind.posOverflow else .negOverflow
          match (ofInt? (result.val * 10) : Option (Signed bits)) with
          | none => .error overflow
          | some scaled =>
              match (ofInt? (if positive then scaled.val + x else scaled.val - x) :
                  Option (Signed bits)) with
              | none => .error overflow
              | some next => accumulateDigits positive next rest

/-- `str::parse` of a Rust signed integer: an optional sign, then at least one digit. -/
def parse (src : List Char) : Except IntErrorKind (Signed bits) :=
  match src with
  | [] => .error .empty
  | ['+'] => .error .invalidDigit
  | ['-'] => .error .invalidDigit
  | '+' :: digits => accumulateDigits true zero digits
  | '-' :: digits => accumulateDigits false zero digits
  | digits => accumulateDigits true zero digits

@[simp] theorem ofInt?_val (x : Signed bits) : ofInt? x.val = some x :=
  ofInt?_eq_some x.inRange

/-- One digit of the loop when neither checked operation overflows. -/
theorem accumulateDigits_digit (positive : Bool) (result next : Signed bits) {d : Nat}
    (isDigit : d < 10) (rest : List Char)
    (scaledRange : InSignedRange bits (result.val * 10))
    (nextVal : next.val = if positive then result.val * 10 + d else result.val * 10 - d) :
    accumulateDigits positive result (Nat.digitChar d :: rest) =
      accumulateDigits positive next rest := by
  simp only [accumulateDigits, digitValue?_digitChar isDigit, ofInt?_eq_some scaledRange]
  rw [← nextVal, ofInt?_val]

/-- The digit loop over a concatenation runs the second part from the first part's result. -/
theorem accumulateDigits_append (positive : Bool) (result : Signed bits)
    (first second : List Char) :
    accumulateDigits positive result (first ++ second) =
      (accumulateDigits positive result first).bind
        (fun middle => accumulateDigits positive middle second) := by
  induction first generalizing result with
  | nil =>
      rfl
  | cons c rest inductionHypothesis =>
      simp only [List.cons_append, accumulateDigits]
      split
      · rfl
      · split
        · rfl
        · split
          · rfl
          · exact inductionHypothesis _

/-- Dropping the last digit keeps a signed magnitude in range, before and after scaling it
back by ten. -/
theorem inRange_div_ten {positive : Bool} {n : Nat}
    (inRange : InSignedRange bits (if positive then (n : Int) else -n)) :
    InSignedRange bits (if positive then ((n / 10 : Nat) : Int) else -((n / 10 : Nat) : Int)) ∧
      InSignedRange bits
        ((if positive then ((n / 10 : Nat) : Int) else -((n / 10 : Nat) : Int)) * 10) := by
  have halfPos : (0 : Int) < 2 ^ (bits - 1) := by positivity
  obtain ⟨lower, upper⟩ := inRange
  cases positive <;>
    simp only [InSignedRange, if_true, Bool.false_eq_true, if_false] at lower upper ⊢ <;> omega

/-- The digits of `n` accumulate to `n`, with the sign of the loop, whenever the signed value
is in range: every prefix of the digits is a smaller magnitude. -/
theorem accumulateDigits_decimalDigits (positive : Bool) (n : Nat)
    (inRange : InSignedRange bits (if positive then (n : Int) else -n)) :
    accumulateDigits positive zero (decimalDigits n) = .ok ⟨_, inRange⟩ := by
  have halfPos : (0 : Int) < 2 ^ (bits - 1) := by positivity
  induction n using decimalDigits.induct with
  | case1 n small =>
      rw [decimalDigits, if_pos small,
        accumulateDigits_digit positive zero ⟨_, inRange⟩ small []
          (by simpa using (zero : Signed bits).inRange) (by cases positive <;> simp)]
      rfl
  | case2 n large inductionHypothesis =>
      obtain ⟨prefixRange, scaledRange⟩ := inRange_div_ten inRange
      rw [decimalDigits, if_neg large, accumulateDigits_append,
        inductionHypothesis prefixRange]
      exact accumulateDigits_digit positive ⟨_, prefixRange⟩ ⟨_, inRange⟩
        (Nat.mod_lt n (by norm_num)) [] scaledRange (by cases positive <;> simp <;> omega)

/-- A sign followed by a digit is read as that sign. -/
theorem parse_sign (c : Char) (rest : List Char) :
    (parse ('-' :: c :: rest) : Except IntErrorKind (Signed bits)) =
      accumulateDigits false zero (c :: rest) := rfl

/-- `str::parse` reads back every value that `to_string` prints. -/
theorem parse_toText (x : Signed bits) : parse x.toText = .ok x := by
  obtain ⟨d, rest, isDigit, shape⟩ := decimalDigits_head x.val.natAbs
  by_cases negative : x.val < 0
  · have magnitude : -(x.val.natAbs : Int) = x.val := by omega
    have run := accumulateDigits_decimalDigits false x.val.natAbs
      (by rw [if_neg Bool.false_ne_true, magnitude]; exact x.inRange)
    simp only [toText, negative, if_true, shape, parse_sign]
    rw [← shape, run]
    congr 1
    exact ext (by simpa using magnitude)
  · have magnitude : (x.val.natAbs : Int) = x.val := by omega
    have run := accumulateDigits_decimalDigits true x.val.natAbs
      (by rw [if_pos rfl, magnitude]; exact x.inRange)
    simp only [toText, negative, if_false]
    rw [show parse (decimalDigits x.val.natAbs) = accumulateDigits true zero (decimalDigits x.val.natAbs) by
      rw [shape]; interval_cases d <;> rfl, run]
    congr 1
    exact ext (by simpa using magnitude)

end Signed

/-- `to_string` of a Rust unsigned integer. -/
def Unsigned.toText (x : Unsigned bits) : List Char :=
  decimalDigits x.val

/-- `bool::to_string`. -/
def boolText : Bool → String
  | true => "true"
  | false => "false"

/-- `str::parse::<bool>`: exactly `true` or `false`. -/
def parseBool (text : String) : Except Unit Bool :=
  if text = "true" then .ok true else if text = "false" then .ok false else .error ()

/-- `str::parse::<bool>` reads back what `bool::to_string` prints. -/
@[simp] theorem parseBool_boolText (value : Bool) : parseBool (boolText value) = .ok value := by
  cases value <;> rfl

end RocketMQ
