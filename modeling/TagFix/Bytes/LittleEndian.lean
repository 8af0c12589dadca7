/-!
Signed 32-bit integers as four bytes, least significant first.
-/

namespace TagFix.LittleEndian

def least : Int := -2147483648

def greatest : Int := 2147483647

def clamp (n : Int) : Int :=
  max least (min n greatest)

/-- The four bytes of an integer, taken modulo 2^32. -/
def encode (n : Int) : List UInt8 :=
  let word := (n % 4294967296).toNat
  [UInt8.ofNat word, UInt8.ofNat (word / 256), UInt8.ofNat (word / 65536),
    UInt8.ofNat (word / 16777216)]

/-- The number below 2^32 whose bytes these are. -/
def word (b₀ b₁ b₂ b₃ : UInt8) : Nat :=
  b₀.toNat + 256 * b₁.toNat + 65536 * b₂.toNat + 16777216 * b₃.toNat

/-- A number below 2^32 read as signed: the upper half stands for the negative integers. -/
def signed (n : Nat) : Int :=
  if n < 2147483648 then n else (n : Int) - 4294967296

def decode (b₀ b₁ b₂ b₃ : UInt8) : Int :=
  signed (word b₀ b₁ b₂ b₃)

theorem word_lt (b₀ b₁ b₂ b₃ : UInt8) : word b₀ b₁ b₂ b₃ < 4294967296 := by
  have first := b₀.toNat_lt
  have second := b₁.toNat_lt
  have third := b₂.toNat_lt
  have fourth := b₃.toNat_lt
  unfold word
  omega

private theorem signed_bounds {n : Nat} (bounded : n < 4294967296) :
    least ≤ signed n ∧ signed n ≤ greatest := by
  unfold least greatest signed
  split <;> omega

theorem decode_bounds (b₀ b₁ b₂ b₃ : UInt8) :
    least ≤ decode b₀ b₁ b₂ b₃ ∧ decode b₀ b₁ b₂ b₃ ≤ greatest :=
  signed_bounds (word_lt b₀ b₁ b₂ b₃)

theorem clamp_bounds (n : Int) : least ≤ clamp n ∧ clamp n ≤ greatest := by
  unfold clamp least greatest
  omega

/-- Any four bytes are those of the integer that they stand for. -/
theorem encode_decode (b₀ b₁ b₂ b₃ : UInt8) : encode (decode b₀ b₁ b₂ b₃) = [b₀, b₁, b₂, b₃] := by
  have first := b₀.toNat_lt
  have second := b₁.toNat_lt
  have third := b₂.toNat_lt
  have fourth := b₃.toNat_lt
  have back : (decode b₀ b₁ b₂ b₃ % 4294967296).toNat = word b₀ b₁ b₂ b₃ := by
    have small := word_lt b₀ b₁ b₂ b₃
    unfold decode signed
    split <;> omega
  simp only [encode, back, word, List.cons.injEq, ← UInt8.toNat_inj, UInt8.toNat_ofNat', and_true]
  omega

private theorem word_encode (n : Nat) (bounded : n < 4294967296) :
    word (UInt8.ofNat n) (UInt8.ofNat (n / 256)) (UInt8.ofNat (n / 65536))
      (UInt8.ofNat (n / 16777216)) = n := by
  simp only [word, UInt8.toNat_ofNat']
  omega

/-- An integer that fits 32 bits is read back from its four bytes. -/
theorem decode_encode {n : Int} (fits : least ≤ n ∧ n ≤ greatest) :
    ∃ b₀ b₁ b₂ b₃, encode n = [b₀, b₁, b₂, b₃] ∧ decode b₀ b₁ b₂ b₃ = n := by
  refine ⟨_, _, _, _, rfl, ?_⟩
  unfold least greatest at fits
  rw [decode, word_encode _ (by omega), signed]
  split <;> omega

end TagFix.LittleEndian
