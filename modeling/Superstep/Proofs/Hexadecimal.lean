import Superstep.Digest.Sha256
import Superstep.Text.Digits

/-!
# Digests in hexadecimal

A word is written with eight digits whatever its value is, and the digits read back as the word. So
digests are equal if their texts are, and nothing is lost after the last block has been mixed in.
-/

namespace Superstep

namespace Text

theorem not_isEmpty_of_natural? {base value : Nat} {digits : List Char}
    (read : natural? base digits = some value) : digits.isEmpty = false := by
  cases digits with
  | nil => cases read
  | cons digit digits => rfl

theorem natural?_zero_cons {digits : List Char} {value : Nat}
    (read : natural? 16 digits = some value) :
    natural? 16 ('0' :: digits) = some value := by
  have zero : digitValue? 16 '0' = some 0 := by decide
  simpa [natural?, not_isEmpty_of_natural? read, zero] using read

theorem natural?_append_digit {digits : List Char} {value digit : Nat}
    (read : natural? 16 digits = some value) (bound : digit < 16) :
    natural? 16 (digits ++ [digit.digitChar]) = some (16 * value + digit) := by
  have all : ∀ d : Fin 16, digitValue? 16 (Nat.digitChar d) = some d.val := by decide
  have last : digitValue? 16 digit.digitChar = some digit := all ⟨digit, bound⟩
  rw [natural?, not_isEmpty_of_natural? read, if_neg Bool.false_ne_true] at read
  rw [natural?, if_neg (by simp), List.foldl_append, read]
  simp [last]

theorem natural?_toDigits (n : Nat) : natural? 16 (Nat.toDigits 16 n) = some n := by
  induction n using Nat.strongRecOn with
  | ind n ih =>
    by_cases small : n < 16
    · have all : ∀ d : Fin 16, natural? 16 [Nat.digitChar d] = some d.val := by decide
      rw [Nat.toDigits_of_lt_base small]
      exact all ⟨n, small⟩
    · rw [Nat.toDigits_of_base_le (by decide) (by omega),
        natural?_append_digit (ih (n / 16) (by omega)) (by omega), Nat.div_add_mod]

end Text

namespace Sha256

/-- The eight digits of a word are read back as the word. -/
theorem natural?_hexWord (word : UInt32) :
    Text.natural? 16 (hexWord word).toList = some word.toNat := by
  have padded (zeros : Nat) :
      Text.natural? 16 (List.replicate zeros '0' ++ Nat.toDigits 16 word.toNat) =
        some word.toNat := by
    induction zeros with
    | zero => exact Text.natural?_toDigits word.toNat
    | succ zeros ih => exact Text.natural?_zero_cons ih
  rw [hexWord, String.toList_ofList]
  exact padded _

theorem length_hexWord (word : UInt32) : (hexWord word).toList.length = 8 := by
  have short : (Nat.toDigits 16 word.toNat).length ≤ 8 :=
    (Nat.length_toDigits_le_iff (by decide) (by decide)).mpr word.toNat_lt
  rw [hexWord, String.toList_ofList, List.length_append, List.length_replicate]
  omega

theorem hexWord_injective {one other : UInt32} (same : hexWord one = hexWord other) :
    one = other := by
  have read := natural?_hexWord one
  rw [same, natural?_hexWord, Option.some.injEq] at read
  exact UInt32.toNat_inj.mp read.symm

/-- Every word takes eight digits, so a row of words can be told from its digits. -/
theorem hexWords_injective (words others : List UInt32) (length : words.length = others.length)
    (same : words.flatMap (fun word => (hexWord word).toList) =
      others.flatMap fun word => (hexWord word).toList) : words = others := by
  induction words generalizing others with
  | nil => exact (List.length_eq_zero_iff.mp length.symm).symm
  | cons word words ih =>
    obtain ⟨other, others, rfl⟩ := List.exists_cons_of_length_eq_add_one length.symm
    rw [List.flatMap_cons, List.flatMap_cons] at same
    have widths : (hexWord word).toList.length = (hexWord other).toList.length := by
      rw [length_hexWord, length_hexWord]
    obtain ⟨first, more⟩ := List.append_inj same widths
    rw [hexWord_injective (String.toList_inj.mp first), ih others (Nat.succ.inj length) more]

def State.words (s : State) : List UInt32 := [s.a, s.b, s.c, s.d, s.e, s.f, s.g, s.h]

theorem State.words_injective {one other : State} (same : one.words = other.words) : one = other := by
  cases one
  cases other
  simpa [words] using same

theorem toList_hex (text : String) :
    (hex text).toList = (digest text.toUTF8).words.flatMap fun word => (hexWord word).toList := by
  rw [hex, String.toList_join, List.flatMap_map, State.words]

/-- The text of a digest holds the whole digest. -/
theorem hex_eq_iff (one other : String) :
    hex one = hex other ↔ digest one.toUTF8 = digest other.toUTF8 := by
  constructor
  · intro same
    have digits := congrArg String.toList same
    rw [toList_hex, toList_hex] at digits
    have length (s : State) : s.words.length = 8 := rfl
    have lengths : (digest one.toUTF8).words.length = (digest other.toUTF8).words.length := by
      rw [length, length]
    exact State.words_injective (hexWords_injective _ _ lengths digits)
  · intro same
    rw [hex, hex, same]

/-- Two messages that have the same digest although they differ. -/
def Collision (one other : ByteArray) : Prop := one ≠ other ∧ digest one = digest other

/-- Writing the digest in digits adds no collision to those of the digest. -/
theorem hex_eq_iff_collision (one other : String) :
    hex one = hex other ↔ one = other ∨ Collision one.toUTF8 other.toUTF8 := by
  have bytes : one.toUTF8 = other.toUTF8 ↔ one = other := String.toByteArray_inj
  rw [hex_eq_iff, Collision, Ne, bytes]
  constructor
  · intro same
    by_cases equal : one = other
    · exact .inl equal
    · exact .inr ⟨equal, same⟩
  · rintro (rfl | collision)
    · rfl
    · exact collision.2

end Sha256

end Superstep
