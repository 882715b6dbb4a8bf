import Mathlib
import FederatedSearch.Vector.Bytes

/-!
The byte form of vectors. A component takes four bytes, which are the places of its bit pattern
in base 256, the lowest first. Bytes are read if and only if they are whole components, and then
reading and writing undo each other on every pattern, also of an undefined component.
-/

namespace FederatedSearch.Vector

/-- The number whose places in base 256 are the bytes, the lowest first. -/
def placeValue (bytes : List UInt8) : Nat := Nat.ofDigits 256 (bytes.map UInt8.toNat)

/-- The bytes are made of one group of four for each word, which counts the word. -/
inductive Spells : List UInt32 → List UInt8 → Prop
  | nil : Spells [] []
  | cons {word : UInt32} {words : List UInt32} {group bytes : List UInt8}
      (width : group.length = 4) (counted : placeValue group = word.toNat)
      (rest : Spells words bytes) : Spells (word :: words) (group ++ bytes)

theorem place_value_nil : placeValue [] = 0 := rfl

theorem place_value_cons (byte : UInt8) (rest : List UInt8) :
    placeValue (byte :: rest) = byte.toNat + 256 * placeValue rest :=
  Nat.ofDigits_cons

theorem place_value_injective {left right : List UInt8} (length : left.length = right.length)
    (same : placeValue left = placeValue right) : left = right := by
  have placeBound (bytes : List UInt8) : ∀ place ∈ bytes.map UInt8.toNat, place < 256 := by
    intro place member
    obtain ⟨byte, -, rfl⟩ := List.mem_map.mp member
    exact byte.toNat_lt
  apply List.map_injective_iff.mpr (fun _ _ => UInt8.toNat_inj.mp)
  apply Nat.ofDigits_inj_of_len_eq (by decide) _ (placeBound left) (placeBound right) same
  simpa using length

theorem word_bytes_counted (word : UInt32) : placeValue (wordBytes word) = word.toNat := by
  have bound := word.toNat_lt
  simp only [wordBytes, place_value_cons, place_value_nil, UInt32.toNat_toUInt8,
    UInt32.toNat_shiftRight, Nat.shiftRight_eq_div_pow]
  change word.toNat % 2 ^ 8 + 256 * (word.toNat / 2 ^ 8 % 2 ^ 8 +
    256 * (word.toNat / 2 ^ 16 % 2 ^ 8 + 256 * (word.toNat / 2 ^ 24 % 2 ^ 8 + 256 * 0))) = _
  omega

/-- A byte shifted above the lower bits adds its place to what they count. -/
theorem stacked {low byte shift : Nat} (below : low < 2 ^ shift) (bound : byte < 2 ^ 8)
    (room : shift ≤ 24) : low ||| byte <<< shift % 2 ^ 32 = low + 2 ^ shift * byte := by
  have fits : byte <<< shift < 2 ^ 32 := by
    calc byte <<< shift = byte * 2 ^ shift := Nat.shiftLeft_eq byte shift
      _ < 2 ^ 8 * 2 ^ shift := Nat.mul_lt_mul_of_pos_right bound (Nat.two_pow_pos shift)
      _ ≤ 2 ^ 8 * 2 ^ 24 := Nat.mul_le_mul_left _ (Nat.pow_le_pow_right (by decide) room)
  rw [Nat.mod_eq_of_lt fits, Nat.or_comm, ← Nat.shiftLeft_add_eq_or_of_lt below,
    Nat.shiftLeft_eq, Nat.mul_comm, Nat.add_comm]

theorem word_of_bytes_counted (b₀ b₁ b₂ b₃ : UInt8) :
    (wordOfBytes b₀ b₁ b₂ b₃).toNat = placeValue [b₀, b₁, b₂, b₃] := by
  have first := b₀.toNat_lt
  have second := b₁.toNat_lt
  have third := b₂.toNat_lt
  have fourth := b₃.toNat_lt
  simp only [wordOfBytes, UInt32.toNat_or, UInt32.toNat_shiftLeft, UInt8.toNat_toUInt32]
  change ((b₀.toNat ||| b₁.toNat <<< 8 % 2 ^ 32) ||| b₂.toNat <<< 16 % 2 ^ 32) |||
    b₃.toNat <<< 24 % 2 ^ 32 = _
  rw [stacked first second (by decide), stacked (by omega) third (by decide),
    stacked (by omega) fourth (by decide)]
  simp only [place_value_cons, place_value_nil]
  omega

theorem read_word (word : UInt32) (bytes : List UInt8) :
    readWords (wordBytes word ++ bytes) = word :: readWords bytes := by
  change wordOfBytes _ _ _ _ :: readWords bytes = _
  apply congrArg (· :: readWords bytes)
  apply UInt32.toNat_inj.mp
  rw [word_of_bytes_counted]
  exact word_bytes_counted word

theorem word_bytes_of_word (b₀ b₁ b₂ b₃ : UInt8) :
    wordBytes (wordOfBytes b₀ b₁ b₂ b₃) = [b₀, b₁, b₂, b₃] := by
  apply place_value_injective
  · rfl
  · rw [word_bytes_counted, word_of_bytes_counted]

theorem read_encoded (words : List UInt32) : readWords (encodeWords words) = words := by
  induction words with
  | nil => rfl
  | cons word words induction =>
      rw [encodeWords, List.flatMap_cons, read_word]
      exact congrArg (word :: ·) induction

theorem encode_read {bytes : List UInt8} (whole : 4 ∣ bytes.length) :
    encodeWords (readWords bytes) = bytes := by
  fun_induction readWords bytes with
  | case1 b₀ b₁ b₂ b₃ rest induction =>
      have shorter : 4 ∣ rest.length := by
        simp only [List.length_cons] at whole
        omega
      rw [encodeWords, List.flatMap_cons, word_bytes_of_word]
      exact congrArg ([b₀, b₁, b₂, b₃] ++ ·) (induction shorter)
  | case2 bytes short =>
      -- Fewer than four bytes are whole components only if there are none.
      match bytes with
      | [] => rfl
      | [_] | [_, _] | [_, _, _] => simp at whole
      | b₀ :: b₁ :: b₂ :: b₃ :: rest => exact (short b₀ b₁ b₂ b₃ rest rfl).elim

theorem encoded_length (words : List UInt32) : (encodeWords words).length = 4 * words.length := by
  induction words with
  | nil => rfl
  | cons word words induction =>
      rw [encodeWords, List.flatMap_cons, List.length_append, List.length_cons, Nat.mul_add,
        Nat.add_comm]
      exact congrArg (· + 4) induction

theorem decode_ok_iff {words : List UInt32} {bytes : List UInt8} :
    decodeWords bytes = .ok words ↔ encodeWords words = bytes := by
  rw [decodeWords]
  constructor
  · intro decoded
    split at decoded
    next whole =>
      rw [← Except.ok.inj decoded]
      exact encode_read (Nat.dvd_of_mod_eq_zero whole)
    next => cases decoded
  · intro encoded
    rw [← encoded, encoded_length, Nat.mul_mod_right, if_pos rfl, read_encoded]

theorem decode_error_iff {bytes : List UInt8} :
    decodeWords bytes = .error (.invalidByteLength bytes.length) ↔ ¬4 ∣ bytes.length := by
  rw [decodeWords, Nat.dvd_iff_mod_eq_zero]
  split <;> simp_all

theorem decode_succeeds_iff {bytes : List UInt8} :
    (∃ words, decodeWords bytes = .ok words) ↔ 4 ∣ bytes.length := by
  constructor
  · rintro ⟨words, decoded⟩
    rw [← decode_ok_iff.mp decoded, encoded_length]
    exact Nat.dvd_mul_right 4 words.length
  · intro whole
    exact ⟨readWords bytes, decode_ok_iff.mpr (encode_read whole)⟩

/-- The byte form of words is the only text that spells them. -/
theorem spells_iff {words : List UInt32} {bytes : List UInt8} :
    Spells words bytes ↔ encodeWords words = bytes := by
  constructor
  · intro spells
    induction spells with
    | nil => rfl
    | @cons word words group bytes width counted rest induction =>
        have first : wordBytes word = group := by
          apply place_value_injective
          · exact width.symm
          · rw [word_bytes_counted, counted]
        rw [encodeWords, List.flatMap_cons, first]
        exact congrArg (group ++ ·) induction
  · intro encoded
    rw [← encoded]
    clear encoded
    induction words with
    | nil => exact .nil
    | cons word words induction => exact .cons rfl (word_bytes_counted word) induction

theorem vector_read_back (vector : List Float32) : ofBytes (toBytes vector) = .ok vector := by
  have decoded : decodeWords (toBytes vector) = .ok (vector.map Float32.toBits) :=
    decode_ok_iff.mpr rfl
  have patterns : Float32.ofBits ∘ Float32.toBits = id := by
    funext component
    exact component.ofBits_toBits
  rw [ofBytes, decoded]
  change Except.ok ((vector.map Float32.toBits).map Float32.ofBits) = _
  rw [List.map_map, patterns, List.map_id]

theorem of_bytes_succeeds_iff {bytes : List UInt8} :
    (∃ vector, ofBytes bytes = .ok vector) ↔ 4 ∣ bytes.length := by
  rw [← decode_succeeds_iff, ofBytes]
  cases decodeWords bytes <;> simp [Except.map]

theorem of_bytes_error_iff {bytes : List UInt8} :
    ofBytes bytes = .error (.invalidByteLength bytes.length) ↔ ¬4 ∣ bytes.length := by
  rw [← decode_error_iff, ofBytes]
  cases decodeWords bytes <;> simp [Except.map]

/-- Bit patterns and bytes of whole components correspond one to one, and other bytes are refused
with their number. The numbers that the patterns stand for are read back likewise. -/
theorem patterns_and_bytes_correspond (words : List UInt32) (vector : List Float32)
    (bytes : List UInt8) :
    decodeWords (encodeWords words) = .ok words ∧
    ((∃ read, decodeWords bytes = .ok read) ↔ 4 ∣ bytes.length) ∧
    (4 ∣ bytes.length ↔ ∃ read, decodeWords bytes = .ok read ∧ encodeWords read = bytes) ∧
    (decodeWords bytes = .error (.invalidByteLength bytes.length) ↔ ¬4 ∣ bytes.length) ∧
    (encodeWords words = bytes ↔ Spells words bytes) ∧
    ofBytes (toBytes vector) = .ok vector ∧
    ((∃ read, ofBytes bytes = .ok read) ↔ 4 ∣ bytes.length) ∧
    (ofBytes bytes = .error (.invalidByteLength bytes.length) ↔ ¬4 ∣ bytes.length) := by
  have canonical : 4 ∣ bytes.length ↔
      ∃ read, decodeWords bytes = .ok read ∧ encodeWords read = bytes := by
    rw [← decode_succeeds_iff]
    apply exists_congr
    intro read
    rw [decode_ok_iff, and_self]
  exact ⟨decode_ok_iff.mpr rfl, decode_succeeds_iff, canonical, decode_error_iff, spells_iff.symm,
    vector_read_back vector, of_bytes_succeeds_iff, of_bytes_error_iff⟩

example : encodeWords [0x3f800000] = [0x00, 0x00, 0x80, 0x3f] := by decide

end FederatedSearch.Vector
