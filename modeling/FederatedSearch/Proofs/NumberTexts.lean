import FederatedSearch.Proofs.PlainTexts
import FederatedSearch.Proofs.ShortestDecimals
import FederatedSearch.Query.Compilation

/-!
Numbers as texts. The text of a number reads back as the number, in whatever case it is spelled.
-/

namespace FederatedSearch.Decimal

open FederatedSearch.Rounding FederatedSearch.Text
open Float.Model (Format UnpackedFloat)
open Float.Model.UnpackedFloat

theorem take_all_digits {digits : List Char} (all : AllDigits digits) :
    takeDigits digits = (digits, []) := by
  have taken := @take_digits digits [] all (by simp)
  rwa [List.append_nil] at taken

theorem read_whole {whole : List Char} (all : AllDigits whole) (some : whole ≠ []) :
    readMagnitude? whole = Option.some (nearest64 whole 0) := by
  rw [readMagnitude?, take_all_digits all]
  simp [List.isEmpty_iff, some, readExponent?]

theorem read_fractional {whole fraction : List Char} (all : AllDigits whole) (some : whole ≠ [])
    (all' : AllDigits fraction) :
    readMagnitude? (whole ++ '.' :: fraction) =
      Option.some (nearest64 (whole ++ fraction) (-fraction.length)) := by
  have point : ∀ c ∈ ('.' :: fraction).head?, c.isDigit = false := by simp
  rw [readMagnitude?, take_digits all point]
  simp only [take_all_digits all']
  simp [List.isEmpty_iff, some, readExponent?]

/-- The digits of a decimal are read, with zeros before or behind them. -/
theorem read_positional (number : DecimalNumber) :
    ∃ count, readMagnitude? number.positional = some (nearest64
      (zeros count ++ (Nat.toDigits 10 number.digits ++ zeros number.exponent.toNat))
      (min number.exponent 0)) := by
  have all := to_digits_digits number.digits
  have filled : Nat.toDigits 10 number.digits ≠ [] := Nat.toDigits_ne_nil
  rw [DecimalNumber.positional]
  generalize Nat.toDigits 10 number.digits = digits at all filled
  split
  next whole =>
    refine ⟨0, ?_⟩
    rw [read_whole (all.append (zeros_digits _)) (List.append_ne_nil_of_left_ne_nil filled _),
      min_eq_right whole]
    rfl
  next fractional =>
    have none : number.exponent.toNat = 0 := by omega
    have least : min number.exponent 0 = number.exponent := by omega
    simp only [none, least]
    split
    next inside =>
      refine ⟨0, ?_⟩
      have places : ((digits.drop (digits.length - (-number.exponent).toNat)).length : ℤ) =
          -number.exponent := by
        rw [List.length_drop]
        omega
      rw [read_fractional (fun c among => all c (List.mem_of_mem_take among))
        (by simp [filled]; omega) (fun c among => all c (List.mem_of_mem_drop among)),
        List.take_append_drop, places, neg_neg]
      simp [zeros]
    next before =>
      refine ⟨1 + ((-number.exponent).toNat - digits.length), ?_⟩
      have places : ((zeros ((-number.exponent).toNat - digits.length) ++ digits).length : ℤ) =
          -number.exponent := by
        rw [List.length_append, zeros, List.length_replicate]
        omega
      have read := read_fractional (zeros_digits 1) (List.cons_ne_nil _ _)
        ((zeros_digits ((-number.exponent).toNat - digits.length)).append all)
      have joined : zeros (1 + ((-number.exponent).toNat - digits.length)) =
          zeros 1 ++ zeros ((-number.exponent).toNat - digits.length) :=
        List.replicate_append_replicate.symm
      have nothing : zeros 0 = [] := rfl
      rw [places, neg_neg] at read
      rw [joined, nothing, List.append_nil, List.append_assoc]
      exact read

variable {n : ℕ} {f : ℤ}

/-- A decimal in its range has its leading digit in the range too. -/
theorem leading_digit_bounds {number : DecimalNumber} (filled : 0 < number.digits)
    {least greatest : ℤ} (low : (10 : ℝ) ^ least ≤ number.value)
    (high : number.value < 10 ^ greatest) :
    least < number.exponent + (Nat.toDigits 10 number.digits).length ∧
      number.exponent + (Nat.toDigits 10 number.digits).length ≤ greatest := by
  have some : 0 < (Nat.toDigits 10 number.digits).length := Nat.length_toDigits_pos
  have few := (to_digits_length_le_iff some).mp (le_refl _)
  have many : 10 ^ ((Nat.toDigits 10 number.digits).length - 1) ≤ number.digits := by
    by_contra fewer
    by_cases one : (Nat.toDigits 10 number.digits).length - 1 = 0
    · rw [one, pow_zero] at fewer
      omega
    · have short := (to_digits_length_le_iff (Nat.pos_of_ne_zero one)).mpr (not_le.mp fewer)
      omega
  generalize (Nat.toDigits 10 number.digits).length = length at some few many
  have unit : (0 : ℝ) < 10 ^ number.exponent := by positivity
  have above : number.value < 10 ^ (number.exponent + length) := by
    rw [DecimalNumber.value, zpow_add₀ (by norm_num), zpow_natCast, mul_comm]
    exact mul_lt_mul_of_pos_left (by exact_mod_cast few) unit
  have below : (10 : ℝ) ^ (number.exponent + (length - 1 : ℕ)) ≤ number.value := by
    rw [DecimalNumber.value, zpow_add₀ (by norm_num), zpow_natCast, mul_comm]
    exact mul_le_mul_of_nonneg_right (by exact_mod_cast many) unit.le
  have first := (zpow_lt_zpow_iff_right₀ (by norm_num : (1 : ℝ) < 10)).mp (low.trans_lt above)
  have second := (zpow_lt_zpow_iff_right₀ (by norm_num : (1 : ℝ) < 10)).mp (below.trans_lt high)
  omega

theorem significant_digits {m : ℕ} (filled : 0 < m) (before behind : ℕ) :
    (zeros before ++ (Nat.toDigits 10 m ++ zeros behind)).dropWhile (· == '0') =
      Nat.toDigits 10 m ++ zeros behind := by
  rw [List.dropWhile_append_of_pos fun c among => by rw [List.eq_of_mem_replicate among]; rfl]
  cases digits : Nat.toDigits 10 m with
  | nil => exact absurd digits Nat.toDigits_ne_nil
  | cons c rest =>
      have nonzero : (c == '0') = false := by
        rw [beq_eq_false_iff_ne]
        rintro rfl
        exact no_leading_zero filled rest digits
      rw [List.cons_append, List.dropWhile_cons_of_neg (by simp [nonzero])]

/-- The digits of a decimal that is nearest to a double are read as the double. -/
theorem nearest_reads {number : DecimalNumber} (filled : 0 < number.digits) {positive : 0 < n}
    (fits : Fits .binary64 (.finite .positive n f positive))
    (reads : ReadsAs .binary64 number.value n f) (few : -400 ≤ number.exponent) (count : ℕ) :
    (nearest64 (zeros count ++ (Nat.toDigits 10 number.digits ++ zeros number.exponent.toNat))
      (min number.exponent 0)).toModel.unpack = .finite .positive n f positive := by
  have length : ((Nat.toDigits 10 number.digits ++ zeros number.exponent.toNat).length : ℤ) =
      (Nat.toDigits 10 number.digits).length + number.exponent.toNat := by
    rw [List.length_append, zeros, List.length_replicate, Nat.cast_add]
  obtain ⟨low, high⟩ := reads_in_range fits reads
  obtain ⟨least, greatest⟩ := leading_digit_bounds filled low high
  have some : (Nat.toDigits 10 number.digits ++ zeros number.exponent.toNat).isEmpty = false := by
    simp
  have inRange : ¬ min number.exponent 0 +
      ((Nat.toDigits 10 number.digits).length + number.exponent.toNat) < -400 ∧
      ¬ 400 < min number.exponent 0 +
        ((Nat.toDigits 10 number.digits).length + (number.exponent.toNat : ℤ)) := by
    omega
  simp only [nearest64, significant_digits filled, some, length, inRange.1, inRange.2,
    digits_value_append_zeros, digits_value_to_digits, Bool.false_or, decide_false,
    Bool.false_eq_true, if_false]
  rw [DecimalNumber.value] at reads
  split
  next fractional =>
    have whole : number.exponent.toNat = 0 := by omega
    rw [whole, pow_zero, mul_one]
    refine read_decimal filled true (by omega) fits ?_
    have power : -((min number.exponent 0).natAbs : ℤ) = number.exponent := by omega
    simp only [if_true, power]
    exact reads
  next whole =>
    refine read_decimal (by positivity) false (by omega) fits ?_
    have power : ((min number.exponent 0).natAbs : ℤ) = 0 := by omega
    have exponent : (10 : ℝ) ^ number.exponent.toNat = 10 ^ number.exponent := by
      rw [← zpow_natCast, Int.toNat_of_nonneg (by omega)]
    simp only [Bool.false_eq_true, if_false, power, zpow_zero, mul_one]
    push_cast
    rw [exponent]
    exact reads

def BinaryValue.of : UnpackedFloat → BinaryValue
  | .notANumber => .notANumber
  | .infinity sign => .infinite (sign == .negative)
  | .zero sign => .finite (sign == .negative) 0 BinaryFormat.binary64.minExponent
  | .finite sign mantissa exponent _ => .finite (sign == .negative) mantissa exponent

section

variable (bits : BitVec 64)

theorem double_mantissa :
    (@unpackMantissa .binary64 bits).toNat = bits.toNat % 2 ^ 52 := by
  simp [unpackMantissa]

theorem double_exponent :
    (@unpackExponent .binary64 bits).toNat = bits.toNat / 2 ^ 52 % 2 ^ 11 := by
  simp [unpackExponent, Nat.shiftRight_eq_div_pow]

theorem double_sign : (Sign.ofBitVec (@unpackSign .binary64 bits) == .negative) =
    (bits.toNat / 2 ^ 63 % 2 == 1) := by
  have sign : (@unpackSign .binary64 bits).toNat = bits.toNat / 2 ^ 63 % 2 := by
    simp [unpackSign, Nat.shiftRight_eq_div_pow]
  simp only [Sign.ofBitVec, ← BitVec.toNat_inj, sign]
  rcases Nat.mod_two_eq_zero_or_one (bits.toNat / 2 ^ 63) with even | odd
  · rw [even]
    rfl
  · rw [odd]
    rfl

theorem decode_eq : BinaryFormat.binary64.decode bits.toNat = .of (.unpack .binary64 bits) := by
  have leading : (1#1 ++ @unpackMantissa .binary64 bits).toNat =
      2 ^ 52 + (@unpackMantissa .binary64 bits).toNat := leading_bit _
  have ones : (-1#11).toNat = 2047 := rfl
  have zeros (width : Nat) : (BitVec.ofNat width 0).toNat = 0 := rfl
  have bias : (Format.binary64.exponentBias : Int) = 1023 := rfl
  have least : BinaryFormat.binary64.minExponent = -1074 := rfl
  have layout : BinaryFormat.binary64.fractionBits = 52 ∧ BinaryFormat.binary64.exponentBits = 11 :=
    ⟨rfl, rfl⟩
  have sign := double_sign bits
  simp only [UnpackedFloat.unpack, ← BitVec.toNat_inj, ones, zeros, leading, bias, double_mantissa,
    double_exponent, BinaryFormat.decode, Nat.pow_eq, layout, least, Nat.reduceAdd, ← sign]
  generalize bits.toNat / 2 ^ 52 % 2 ^ 11 = field
  have top : 2 ^ 11 - 1 = 2047 := rfl
  rw [top]
  split
  next =>
    split <;> rfl
  next =>
    split
    next lowest =>
      split
      next none => rw [none]; rfl
      next =>
        rw [BinaryValue.of, lowest]
        rfl
    next =>
      rw [BinaryValue.of]
      congr 1
      omega

end

/-- A text that is spelled with digits and points and starts with a digit. -/
structure IsPositional (text : List Char) : Prop where
  starts : ∃ c ∈ text.head?, c.isDigit = true
  plain : ∀ c ∈ text, c.isDigit = true ∨ c = '.'

theorem positional_is_positional (number : DecimalNumber) : IsPositional number.positional := by
  have all := to_digits_digits number.digits
  have filled : Nat.toDigits 10 number.digits ≠ [] := Nat.toDigits_ne_nil
  rw [DecimalNumber.positional]
  generalize Nat.toDigits 10 number.digits = digits at all filled
  have starts {rest : List Char} : ∃ c ∈ (digits ++ rest).head?, c.isDigit = true := by
    obtain ⟨first, others, rfl⟩ := List.exists_cons_of_ne_nil filled
    exact ⟨first, rfl, all first List.mem_cons_self⟩
  split
  next whole =>
    refine ⟨starts, fun c among => .inl ?_⟩
    exact all.append (zeros_digits _) c among
  next fractional =>
    simp only
    split
    next inside =>
      generalize split : digits.length - (-number.exponent).toNat = taken
      have some : 0 < taken := by omega
      constructor
      · obtain ⟨first, others, rfl⟩ := List.exists_cons_of_ne_nil filled
        obtain ⟨rest, rfl⟩ := Nat.exists_eq_add_of_lt some
        rw [Nat.zero_add]
        exact ⟨first, rfl, all first List.mem_cons_self⟩
      · intro c among
        rcases List.mem_append.mp among with front | behind
        · exact .inl (all c (List.mem_of_mem_take front))
        · rcases List.mem_cons.mp behind with rfl | back
          · exact .inr rfl
          · exact .inl (all c (List.mem_of_mem_drop back))
    next before =>
      refine ⟨⟨'0', rfl, rfl⟩, ?_⟩
      intro c among
      rcases List.mem_append.mp among with front | behind
      · simp only [List.mem_cons] at front
        rcases front with rfl | rfl | zero
        · exact .inl rfl
        · exact .inr rfl
        · exact .inl (zeros_digits _ c zero)
      · exact .inl (all c behind)

theorem read_signed {text magnitude : List Char} {negative : Bool}
    (signed : takeSign text = (negative, magnitude))
    (starts : ∃ c ∈ magnitude.head?, c.isDigit = true) :
    readNumber? text = (readMagnitude? magnitude).map fun x => if negative then -x else x := by
  obtain ⟨c, first, digit⟩ := starts
  have front {name : String} (named : String.ofList (magnitude.map Char.toLower) = name) :
      name.toList.head? = some c := by
    rw [← named, String.toList_ofList, List.head?_map, Option.mem_def.mp first, Option.map_some,
      lower_uncased (uncased_of_digit digit)]
  simp only [readNumber?, signed]
  congr 1
  split
  next named => exact absurd (Option.some.inj (front named)) (by rintro rfl; cases digit)
  next named => exact absurd (Option.some.inj (front named)) (by rintro rfl; cases digit)
  next named => exact absurd (Option.some.inj (front named)) (by rintro rfl; cases digit)
  next => rfl

theorem take_sign_of_digit {text : List Char} (starts : ∃ c ∈ text.head?, c.isDigit = true) :
    takeSign text = (false, text) := by
  obtain ⟨c, first, digit⟩ := starts
  unfold takeSign
  split
  next => cases first; cases digit
  next => cases first; cases digit
  next => rfl

def signed (sign : Sign) (text : List Char) : List Char :=
  if sign == .negative then '-' :: text else text

def plainText : BinaryValue → List Char
  | .notANumber => ['N', 'a', 'N']
  | .infinite negative => if negative then '-' :: ['i', 'n', 'f'] else ['i', 'n', 'f']
  | .finite negative mantissa exponent =>
      let text := NumberStyle.plain.writeMagnitude .binary64 mantissa exponent
      if negative then '-' :: text else text

theorem plain_eq (x : Float) : (plain64 x).toList = plainText (.of x.toModel.unpack) := by
  have decoded : BinaryFormat.binary64.decode x.toBits.toNat = .of x.toModel.unpack := decode_eq _
  rw [plain64, NumberStyle.write, decoded, String.toList_ofList]
  cases BinaryValue.of x.toModel.unpack <;> rfl

theorem plain_finite {x : Float} {sign : Sign} {positive : 0 < n}
    (unpacked : x.toModel.unpack = .finite sign n f positive) :
    (plain64 x).toList = signed sign (shortest .binary64 n f).positional := by
  rw [plain_eq, unpacked]
  simp [BinaryValue.of, plainText, NumberStyle.writeMagnitude, NumberStyle.writeDecimal,
    NumberStyle.plain, positive.ne', signed]

theorem plain_infinite {x : Float} {sign : Sign} (unpacked : x.toModel.unpack = .infinity sign) :
    (plain64 x).toList = signed sign ['i', 'n', 'f'] := by
  rw [plain_eq, unpacked]
  rfl

theorem take_minus (text : List Char) : takeSign ('-' :: text) = (true, text) := rfl

theorem unpack_neg (x : Float) : (-x).toModel.unpack = stored .binary64 x.toModel.unpack.neg := rfl

/-- The text of a finite number reads back as the number. -/
theorem finite_read_back {x : Float} {sign : Sign} {positive : 0 < n}
    (unpacked : x.toModel.unpack = .finite sign n f positive) :
    ∃ y, readNumber? (plain64 x).toList = some y ∧ y.toModel.unpack = x.toModel.unpack := by
  have fits : Fits .binary64 (.finite sign n f positive) := by
    rcases double_cases x with ⟨_, infinite⟩ | undefined | fits
    · rw [unpacked] at infinite
      cases infinite
    · rw [unpacked] at undefined
      cases undefined
    · rwa [unpacked] at fits
  obtain ⟨filled, reads, few⟩ := shortest_reads fits
  have starts := (positional_is_positional (shortest .binary64 n f)).starts
  obtain ⟨count, read⟩ := read_positional (shortest .binary64 n f)
  have unsigned : Fits .binary64 (.finite .positive n f positive) := fits
  have magnitude := nearest_reads filled unsigned reads few count
  generalize nearest64 _ _ = y at read magnitude
  rw [plain_finite unpacked, unpacked]
  cases sign with
  | positive =>
      refine ⟨y, ?_, magnitude⟩
      rw [signed, if_neg (by decide), read_signed (take_sign_of_digit starts) starts, read]
      rfl
  | negative =>
      refine ⟨-y, ?_, ?_⟩
      · rw [signed, if_pos (by decide), read_signed (take_minus _) starts, read]
        rfl
      · rw [unpack_neg, magnitude]
        exact stored_fitting fits

theorem infinite_read_back {x : Float} {sign : Sign} (unpacked : x.toModel.unpack = .infinity sign)
    {text : List Char} (spelled : text.map Char.toLower = (plain64 x).toList.map Char.toLower) :
    ∃ y, readNumber? text = some y ∧ y.toModel.unpack = x.toModel.unpack := by
  have named {letters : List Char} (name : letters.map Char.toLower = ['i', 'n', 'f']) :
      String.ofList (letters.map Char.toLower) = "inf" := congrArg String.ofList name
  have infinite : (1 / 0 : Float).toModel.unpack = .infinity .positive := by
    rfl
  rw [plain_infinite unpacked] at spelled
  rw [unpacked]
  cases sign with
  | positive =>
      have unsigned : takeSign text = (false, text) := by
        unfold takeSign
        split
        next => cases spelled
        next => cases spelled
        next => rfl
      refine ⟨1 / 0, ?_, infinite⟩
      rw [readNumber?, unsigned]
      simp only [named spelled]
      rfl
  | negative =>
      cases text with
      | nil => cases spelled
      | cons c letters =>
          obtain ⟨minus, name⟩ := List.cons.inj spelled
          have dash : c = '-' := by
            rw [← uncased_of_lower (c := c) (minus ▸ rfl)]
            exact minus
          subst dash
          refine ⟨-(1 / 0), ?_, ?_⟩
          · rw [readNumber?, take_minus]
            simp only [named name]
            rfl
          · rw [unpack_neg, infinite]
            exact stored_infinity .negative

section

variable {x y : Float}

theorem less_iff_before : x < y ↔ x.toModel.unpack.compare y.toModel.unpack = some .lt := by
  have compared : x < y ↔ (x.toModel.unpack.compare y.toModel.unpack == some .lt) = true :=
    decide_eq_true_iff
  rw [compared, beq_iff_eq]

theorem equal_iff_level :
    (x == y) = true ↔ x.toModel.unpack.compare y.toModel.unpack = some .eq := by
  have compared : (x == y) = (x.toModel.unpack.compare y.toModel.unpack == some .eq) := rfl
  rw [compared, beq_iff_eq]

theorem compare_level (forward : x.toModel.unpack.compare y.toModel.unpack = some .eq)
    (backward : y.toModel.unpack.compare x.toModel.unpack = some .eq) :
    compareFloats? x y = some .eq := by
  have notBefore : ¬ x < y := by
    rw [less_iff_before, forward]
    decide
  have notBehind : ¬ x > y := by
    rw [gt_iff_lt, less_iff_before, backward]
    decide
  rw [compareFloats?, if_neg notBefore, if_neg notBehind, if_pos (equal_iff_level.mpr forward)]

theorem compare_self (y : UnpackedFloat) (defined : y ≠ .notANumber) : y.compare y = some .eq := by
  cases y with
  | notANumber => exact absurd rfl defined
  | zero => rfl
  | infinity sign => cases sign <;> rfl
  | finite sign m e positive =>
      cases sign <;> simp [UnpackedFloat.compare]

theorem is_nan_iff : x.isNaN = true ↔ x.toModel.unpack = .notANumber := by
  have kind : x.isNaN = x.toModel.unpack.isNaN := rfl
  rw [kind]
  cases x.toModel.unpack <;> simp [UnpackedFloat.isNaN]

theorem compare_undefined (undefined : y.toModel.unpack = .notANumber) :
    compareFloats? x y = none := by
  have forward (z : UnpackedFloat) : z.compare .notANumber = none := by
    cases z <;> rfl
  have backward (z : UnpackedFloat) : UnpackedFloat.compare .notANumber z = none := by
    cases z <;> rfl
  have notBefore : ¬ x < y := by
    rw [less_iff_before, undefined, forward]
    exact nofun
  have notBehind : ¬ x > y := by
    rw [gt_iff_lt, less_iff_before, undefined, backward]
    exact nofun
  have notLevel : ¬ (x == y) = true := by
    rw [equal_iff_level, undefined, forward]
    exact nofun
  rw [compareFloats?, if_neg notBefore, if_neg notBehind, if_neg notLevel]

theorem zero_unpacked : (0 : Float).toModel.unpack = .zero .positive := rfl

/-- Zero is written without its sign, and an infinite number with its name. -/
theorem number_text_cases (defined : x.toModel.unpack ≠ .notANumber) :
    (∃ sign, x.toModel.unpack = .zero sign ∧ (Literal.numberText x).toList = ['0']) ∨
    (∃ sign, x.toModel.unpack = .infinity sign ∧
      (Literal.numberText x).toList = signed sign ['i', 'n', 'f'] ∧
      Literal.numberText x = plain64 x) ∨
    ∃ sign n f positive, x.toModel.unpack = .finite sign n f positive ∧
      (Literal.numberText x).toList = signed sign (shortest .binary64 n f).positional ∧
      Literal.numberText x = plain64 x := by
  have nonzero (apart : x.toModel.unpack.compare (.zero .positive) ≠ some .eq) :
      Literal.numberText x = plain64 x := by
    rw [Literal.numberText, if_neg]
    rw [equal_iff_level, zero_unpacked]
    exact apart
  cases unpacked : x.toModel.unpack with
  | notANumber => exact absurd unpacked defined
  | zero sign =>
      left
      have level : (x == 0) = true := by
        rw [equal_iff_level, zero_unpacked, unpacked]
        rfl
      rw [Literal.numberText, if_pos level]
      exact ⟨sign, rfl, rfl⟩
  | infinity sign =>
      have written := nonzero (by rw [unpacked]; cases sign <;> decide)
      rw [written, plain_infinite unpacked]
      exact .inr (.inl ⟨sign, rfl, rfl, rfl⟩)
  | finite sign n f positive =>
      have written := nonzero (by rw [unpacked]; cases sign <;> simp [UnpackedFloat.compare])
      rw [written, plain_finite unpacked]
      exact .inr (.inr ⟨sign, n, f, positive, rfl, rfl, rfl⟩)

end

theorem signed_all (Holds : Char → Prop) (minus : Holds '-') {text : List Char}
    (all : ∀ c ∈ text, Holds c) (sign : Sign) : ∀ c ∈ signed sign text, Holds c := by
  unfold signed
  split
  next => exact List.forall_mem_cons.mpr ⟨minus, all⟩
  next => exact all

theorem positional_all (Holds : Char → Prop) (digits : ∀ c : Char, c.isDigit = true → Holds c)
    (point : Holds '.') (minus : Holds '-') (number : DecimalNumber) (sign : Sign) :
    ∀ c ∈ signed sign number.positional, Holds c := by
  apply signed_all Holds minus
  intro c among
  rcases (positional_is_positional number).plain c among with digit | rfl
  · exact digits c digit
  · exact point

theorem number_text_plain {x : Float} (defined : x.toModel.unpack ≠ .notANumber) :
    ∀ c ∈ (Literal.numberText x).toList, isPlain c = true := by
  rcases number_text_cases defined with ⟨sign, -, written⟩ | ⟨sign, -, written, -⟩ |
    ⟨sign, n, f, positive, -, written, -⟩
  · rw [written, List.forall_mem_singleton]
    rfl
  · rw [written]
    apply signed_all (isPlain · = true) rfl
    simp only [List.forall_mem_cons]
    exact ⟨rfl, rfl, rfl, fun _ among => absurd among List.not_mem_nil⟩
  · rw [written]
    exact positional_all (isPlain · = true) (fun _ digit => plain_of_digit digit) rfl rfl _ _

theorem spelled_number_reads {x : Float} (defined : x.toModel.unpack ≠ .notANumber)
    {text : List Char} (spelled : lower text = lower (Literal.numberText x).toList) :
    (readNumber? (trim text)).bind (compareFloats? · x) = some .eq := by
  obtain ⟨letters, kept⟩ := spelled_plainly (number_text_plain defined) spelled
  rw [kept]
  rcases number_text_cases defined with ⟨sign, zero, written⟩ | ⟨sign, infinite, -, written⟩ |
    ⟨sign, n, f, positive, finite, spelling, written⟩
  · rw [written] at letters
    rw [uncased_text (by rw [List.forall_mem_singleton]; rfl) letters]
    have read : readNumber? ['0'] = some 0 := by rfl
    rw [read]
    apply compare_level <;> rw [zero_unpacked, zero] <;> rfl
  · rw [written] at letters
    obtain ⟨y, read, same⟩ := infinite_read_back infinite letters
    rw [read]
    apply compare_level <;> rw [same] <;> exact compare_self _ defined
  · have uncased : ∀ c ∈ (Literal.numberText x).toList, isUncased c = true := by
      rw [spelling]
      exact positional_all (isUncased · = true) (fun _ digit => uncased_of_digit digit) rfl rfl _ _
    rw [uncased_text uncased letters]
    obtain ⟨y, read, same⟩ := finite_read_back finite
    rw [written, read]
    apply compare_level <;> rw [same] <;> exact compare_self _ defined

end FederatedSearch.Decimal
