import ForumDigest.Base64

namespace ForumDigest.Base64

theorem letterValue?_letter {n : Nat} (h : n < 64) : letterValue? (letter n) = some n := by
  have all : ∀ m < 64, letterValue? (letter m) = some m := by decide
  exact all n h

theorem letter_ne_pad {n : Nat} (h : n < 64) : letter n ≠ '=' := by
  have all : ∀ m < 64, letter m ≠ '=' := by decide
  exact all n h

variable {n : Nat}

theorem decode?_four (h : n < 16777216) (rest : List Char) :
    decode? (letter (n / 262144) :: letter (n / 4096 % 64) :: letter (n / 64 % 64) ::
      letter (n % 64) :: rest) =
      (decode? rest).map fun tail =>
        UInt8.ofNat (n / 65536) :: UInt8.ofNat (n / 256 % 256) :: UInt8.ofNat (n % 256) ::
          tail := by
  have value : n / 262144 * 262144 + n / 4096 % 64 * 4096 + n / 64 % 64 * 64 + n % 64 = n := by
    omega
  have unpadded : letter (n % 64) ≠ '=' := letter_ne_pad (Nat.mod_lt n (by decide))
  rw [decode?.eq_4 _ _ _ _ _ (fun _ pad _ => unpadded pad) (fun pad _ => unpadded pad),
    letterValue?_letter (by omega), letterValue?_letter (by omega), letterValue?_letter (by omega),
    letterValue?_letter (by omega)]
  simp only [Option.bind_eq_bind, Option.bind_some, value]
  cases decode? rest <;> rfl

theorem decode?_three (h : n < 16777216) (zero : n % 256 = 0) :
    decode? [letter (n / 262144), letter (n / 4096 % 64), letter (n / 64 % 64), '='] =
      some [UInt8.ofNat (n / 65536), UInt8.ofNat (n / 256 % 256)] := by
  have value : n / 262144 * 4096 + n / 4096 % 64 * 64 + n / 64 % 64 = n / 64 := by omega
  have spare : n / 64 % 4 = 0 := by omega
  have first : n / 64 / 1024 = n / 65536 := by omega
  have second : n / 64 / 4 % 256 = n / 256 % 256 := by omega
  rw [decode?.eq_3 _ _ _ (letter_ne_pad (by omega)), letterValue?_letter (by omega),
    letterValue?_letter (by omega), letterValue?_letter (by omega)]
  simp only [Option.bind_eq_bind, Option.bind_some, value, spare, if_true, first, second]

theorem decode?_two (h : n < 16777216) (zero : n % 65536 = 0) :
    decode? [letter (n / 262144), letter (n / 4096 % 64), '=', '='] =
      some [UInt8.ofNat (n / 65536)] := by
  have value : n / 262144 * 64 + n / 4096 % 64 = n / 4096 := by omega
  have spare : n / 4096 % 16 = 0 := by omega
  have first : n / 4096 / 16 = n / 65536 := by omega
  rw [decode?.eq_2, letterValue?_letter (by omega), letterValue?_letter (by omega)]
  simp only [Option.bind_eq_bind, Option.bind_some, value, spare, if_true, first]

theorem pack_lt (a b c : UInt8) : pack a b c < 16777216 := by
  have := a.toNat_lt
  have := b.toNat_lt
  have := c.toNat_lt
  unfold pack
  omega

theorem pack_first (a b c : UInt8) : UInt8.ofNat (pack a b c / 65536) = a := by
  have := b.toNat_lt
  have := c.toNat_lt
  have quotient : pack a b c / 65536 = a.toNat := by
    unfold pack
    omega
  rw [quotient, UInt8.ofNat_toNat]

theorem pack_second (a b c : UInt8) : UInt8.ofNat (pack a b c / 256 % 256) = b := by
  have := b.toNat_lt
  have := c.toNat_lt
  have digit : pack a b c / 256 % 256 = b.toNat := by
    unfold pack
    omega
  rw [digit, UInt8.ofNat_toNat]

theorem pack_third (a b c : UInt8) : UInt8.ofNat (pack a b c % 256) = c := by
  have := c.toNat_lt
  have digit : pack a b c % 256 = c.toNat := by
    unfold pack
    omega
  rw [digit, UInt8.ofNat_toNat]

theorem decode?_encode (bs : List UInt8) : decode? (encode bs) = some bs := by
  induction bs using encode.induct with
  | case1 a b c rest ih =>
    rw [encode, decode?_four (pack_lt a b c), ih, pack_first, pack_second, pack_third]
    rfl
  | case2 a b =>
    have zero : pack a b 0 % 256 = 0 := by
      unfold pack
      rw [UInt8.toNat_zero]
      omega
    rw [encode, decode?_three (pack_lt a b 0) zero, pack_first, pack_second]
  | case3 a =>
    have zero : pack a 0 0 % 65536 = 0 := by
      unfold pack
      rw [UInt8.toNat_zero]
      omega
    rw [encode, decode?_two (pack_lt a 0 0) zero, pack_first]
  | case4 => rfl

end ForumDigest.Base64
