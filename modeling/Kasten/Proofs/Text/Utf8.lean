import Kasten.Text.Utf8

/-!
# Texts survive as octets

Reading the octets of a text gives the text back. A character of one octet is found in the text
wherever its octet is found, since the octets of longer characters are all above 127.
-/

namespace Kasten.Text.Utf8

/-! ## 1. Reading one character -/

theorem toNat_ofNat_of_lt {n : Nat} (h : n < 256) : (UInt8.ofNat n).toNat = n :=
  UInt8.toNat_ofNat_of_lt' h

theorem decodeFrom_start (b : UInt8) (bs : Bytes) :
    decodeFrom none (b :: bs) = (start b.toNat).1 ++ decodeFrom (start b.toNat).2 bs := by
  rw [decodeFrom]

/-- An octet within the bounds ends the character that owes just one. -/
theorem decodeFrom_last {value low high : Nat} {b : UInt8} (bs : Bytes)
    (hb : low ≤ b.toNat ∧ b.toNat ≤ high) :
    decodeFrom (some ⟨1, value, low, high⟩) (b :: bs) =
      some (Char.ofNat (value * 64 + b.toNat % 64)) :: decodeFrom none bs := by
  rw [decodeFrom]
  dsimp only
  rw [if_pos hb, if_pos rfl]

theorem decodeFrom_more {owed value low high : Nat} {b : UInt8} (bs : Bytes)
    (hb : low ≤ b.toNat ∧ b.toNat ≤ high) (howed : owed ≠ 0) :
    decodeFrom (some ⟨owed + 1, value, low, high⟩) (b :: bs) =
      decodeFrom (some ⟨owed, value * 64 + b.toNat % 64, 0x80, 0xbf⟩) bs := by
  rw [decodeFrom]
  dsimp only
  rw [if_pos hb, if_neg (by omega), Nat.add_sub_cancel]

/-- The octets after the first of a character. -/
theorem toNat_trailing (n : Nat) : (UInt8.ofNat (n % 64 + 0x80)).toNat = n % 64 + 0x80 :=
  toNat_ofNat_of_lt (by omega)

theorem trailing_bounds (n : Nat) :
    0x80 ≤ (UInt8.ofNat (n % 64 + 0x80)).toNat ∧ (UInt8.ofNat (n % 64 + 0x80)).toNat ≤ 0xbf := by
  rw [toNat_trailing]
  omega

theorem begin_two {n : Nat} (h : 2 ≤ n ∧ n < 32) :
    begin? (n + 0xc0) = some ⟨1, n, 0x80, 0xbf⟩ := by
  unfold begin?
  rw [if_neg (by omega), if_pos (by omega), Nat.add_sub_cancel]

/-- The second octet of a character of three is bounded so that no shorter form is read and no
surrogate. -/
theorem begin_three {n m : Nat} (h : n < 16) (hlow : n = 0 → 0x20 ≤ m) (hhigh : n = 13 → m < 0x20)
    (hm : m < 0x40) : ∃ low high, begin? (n + 0xe0) = some ⟨2, n, low, high⟩ ∧
      low ≤ m + 0x80 ∧ m + 0x80 ≤ high := by
  unfold begin?
  rw [if_neg (by omega), if_neg (by omega)]
  -- The bounds are narrower after `e0`, where a shorter form would do, and after `ed`, where the
  -- surrogates are.
  by_cases h0 : n = 0
  · rw [h0, if_pos rfl]
    exact ⟨0xa0, 0xbf, rfl, by omega, by omega⟩
  by_cases h13 : n = 13
  · rw [h13, if_neg (by omega), if_pos rfl]
    exact ⟨0x80, 0x9f, rfl, by omega, by omega⟩
  · rw [if_neg (by omega), if_neg (by omega), if_pos (by omega), Nat.add_sub_cancel]
    exact ⟨0x80, 0xbf, rfl, by omega, by omega⟩

/-- The same for a character of four, which is at most `0x10ffff`. -/
theorem begin_four {n m : Nat} (h : n ≤ 4) (hlow : n = 0 → 0x10 ≤ m) (hhigh : n = 4 → m < 0x10)
    (hm : m < 0x40) : ∃ low high, begin? (n + 0xf0) = some ⟨3, n, low, high⟩ ∧
      low ≤ m + 0x80 ∧ m + 0x80 ≤ high := by
  unfold begin?
  rw [if_neg (by omega), if_neg (by omega), if_neg (by omega), if_neg (by omega),
    if_neg (by omega)]
  -- Here they are so after `f0`, and after `f4`, where the last character is passed.
  by_cases h0 : n = 0
  · rw [h0, if_pos rfl]
    exact ⟨0x90, 0xbf, rfl, by omega, by omega⟩
  by_cases h4 : n = 4
  · rw [h4, if_neg (by omega), if_neg (by omega), if_pos rfl]
    exact ⟨0x80, 0x8f, rfl, by omega, by omega⟩
  · rw [if_neg (by omega), if_pos (by omega), Nat.add_sub_cancel]
    exact ⟨0x80, 0xbf, rfl, by omega, by omega⟩

theorem decodeFrom_begin {n : Nat} {b : UInt8} {begun : Begun} (bs : Bytes) (hb : b.toNat = n)
    (hn : 0x80 ≤ n) (h : begin? n = some begun) :
    decodeFrom none (b :: bs) = decodeFrom (some begun) bs := by
  rw [decodeFrom_start, hb]
  unfold start
  rw [if_neg (by omega), h]
  rfl

theorem decodeFrom_encodeChar (c : Char) (bs : Bytes) :
    decodeFrom none (String.utf8EncodeChar c ++ bs) = some c :: decodeFrom none bs := by
  have hvalid : c.toNat < 0xd800 ∨ 0xdfff < c.toNat ∧ c.toNat < 0x110000 := c.valid
  have hc : Char.ofNat c.toNat = c := Char.ofNat_toNat c
  unfold String.utf8EncodeChar
  dsimp only
  -- One case for each number of octets.
  rw [show c.val.toNat = c.toNat from rfl]
  generalize c.toNat = v at hvalid hc
  by_cases h1 : v ≤ 0x7f
  · rw [if_pos h1, List.singleton_append, decodeFrom_start, toNat_ofNat_of_lt (by omega)]
    unfold start
    rw [if_pos (by omega), hc]
    rfl
  rw [if_neg h1]
  by_cases h2 : v ≤ 0x7ff
  · have hbegin := begin_two (n := v / 64 % 32) (by omega)
    rw [if_pos h2, List.cons_append, List.singleton_append,
      decodeFrom_begin _ (toNat_ofNat_of_lt (by omega)) (by omega) hbegin,
      decodeFrom_last _ (trailing_bounds v), toNat_trailing]
    rw [show v / 64 % 32 * 64 + (v % 64 + 0x80) % 64 = v by omega, hc]
  rw [if_neg h2]
  by_cases h3 : v ≤ 0xffff
  · have hbegin := begin_three (n := v / 4096 % 16) (m := v / 64 % 64)
      (by omega) (by omega) (by omega) (by omega)
    rcases hbegin with ⟨low, high, hbegin, hlow, hhigh⟩
    rw [← toNat_trailing] at hlow hhigh
    rw [if_pos h3, List.cons_append, List.cons_append, List.singleton_append,
      decodeFrom_begin _ (toNat_ofNat_of_lt (by omega)) (by omega) hbegin,
      decodeFrom_more _ ⟨hlow, hhigh⟩ (by omega), toNat_trailing,
      decodeFrom_last _ (trailing_bounds v), toNat_trailing]
    rw [show (v / 4096 % 16 * 64 + (v / 64 % 64 + 0x80) % 64) * 64 + (v % 64 + 0x80) % 64 = v
      by omega, hc]
  · have hbegin := begin_four (n := v / 262144 % 8) (m := v / 4096 % 64)
      (by omega) (by omega) (by omega) (by omega)
    rcases hbegin with ⟨low, high, hbegin, hlow, hhigh⟩
    rw [← toNat_trailing] at hlow hhigh
    rw [if_neg h3, List.cons_append, List.cons_append, List.cons_append, List.singleton_append,
      decodeFrom_begin _ (toNat_ofNat_of_lt (by omega)) (by omega) hbegin,
      decodeFrom_more _ ⟨hlow, hhigh⟩ (by omega), toNat_trailing,
      decodeFrom_more _ (trailing_bounds (v / 64)) (by omega), toNat_trailing,
      decodeFrom_last _ (trailing_bounds v), toNat_trailing]
    rw [show ((v / 262144 % 8 * 64 + (v / 4096 % 64 + 0x80) % 64) * 64 +
      (v / 64 % 64 + 0x80) % 64) * 64 + (v % 64 + 0x80) % 64 = v by omega, hc]

/-! ## 2. Reading a text -/

theorem decode_encode (cs : List Char) : decode (encode cs) = cs.map some := by
  unfold decode
  induction cs with
  | nil => rfl
  | cons c cs ih =>
    show decodeFrom none (String.utf8EncodeChar c ++ encode cs) = _
    rw [decodeFrom_encodeChar, ih, List.map_cons]

/-- The octets of a text are read as the text. -/
theorem decodeLossy_encode (cs : List Char) : decodeLossy (encode cs) = cs := by
  unfold decodeLossy
  rw [decode_encode, List.map_map]
  exact List.map_id cs

theorem encode_append (cs ds : List Char) : encode (cs ++ ds) = encode cs ++ encode ds :=
  List.flatMap_append

/-! ## 3. Octets below 128 -/

theorem encodeChar_of_lt {c : Char} (hc : c.toNat < 0x80) :
    String.utf8EncodeChar c = [UInt8.ofNat c.toNat] :=
  if_pos (Nat.le_of_lt_succ hc)

/-- The octets of a longer character are all above 127. -/
theorem le_of_mem_encodeChar {c : Char} {b : UInt8} (hc : 0x80 ≤ c.toNat)
    (h : b ∈ String.utf8EncodeChar c) : 0x80 ≤ b.toNat := by
  have hfirst : ∀ {n : Nat}, n < 256 → 0x80 ≤ n → b = UInt8.ofNat n → 0x80 ≤ b.toNat := by
    intro n hn hlow hb
    rwa [hb, toNat_ofNat_of_lt hn]
  have htrailing : ∀ {n : Nat}, b = UInt8.ofNat (n % 64 + 0x80) → 0x80 ≤ b.toNat := by
    intro n hb
    rw [hb]
    exact (trailing_bounds n).1
  unfold String.utf8EncodeChar at h
  dsimp only at h
  rw [show c.val.toNat = c.toNat from rfl, if_neg (by omega)] at h
  -- The first octet tells how many follow; those that follow are made alike.
  split at h
  next =>
    rw [List.mem_cons, List.mem_singleton] at h
    rcases h with hb | hb
    · exact hfirst (by omega) (by omega) hb
    · exact htrailing hb
  next =>
    split at h
    next =>
      rw [List.mem_cons, List.mem_cons, List.mem_singleton] at h
      rcases h with hb | hb | hb
      · exact hfirst (by omega) (by omega) hb
      · exact htrailing hb
      · exact htrailing hb
    next =>
      rw [List.mem_cons, List.mem_cons, List.mem_cons, List.mem_singleton] at h
      rcases h with hb | hb | hb | hb
      · exact hfirst (by omega) (by omega) hb
      · exact htrailing hb
      · exact htrailing hb
      · exact htrailing hb

/-- An octet below 128 stands for a character of the text. -/
theorem mem_of_mem_encode {cs : List Char} {c : Char} (hc : c.toNat < 0x80)
    (h : UInt8.ofNat c.toNat ∈ encode cs) : c ∈ cs := by
  have hb : (UInt8.ofNat c.toNat).toNat = c.toNat := toNat_ofNat_of_lt (by omega)
  rcases List.mem_flatMap.mp h with ⟨d, hd, hmem⟩
  -- The character it comes from is below 128 as well, and is then its own octet.
  have hlow : d.toNat < 0x80 := by
    by_cases hlow : d.toNat < 0x80
    · exact hlow
    · have hhigh := le_of_mem_encodeChar (by omega) hmem
      omega
  rw [encodeChar_of_lt hlow, List.mem_singleton] at hmem
  have heq : c.toNat = d.toNat := by
    rw [← hb, hmem, toNat_ofNat_of_lt (by omega)]
  rw [Char.toNat_inj.mp heq]
  exact hd

end Kasten.Text.Utf8
