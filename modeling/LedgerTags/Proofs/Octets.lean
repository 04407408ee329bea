import LedgerTags.Text.Utf8
import Mathlib.Tactic.SplitIfs

/-!
# Octets of texts

A text without surrogates is read back from its octets (`decode?_encode`): the first octet of a code
point says how many follow, and between which bounds the next one lies.
-/

namespace LedgerTags.Text.Utf8

private theorem decodeFrom_lead {b v n lo hi : Nat} (bs : List UInt8) (hb : b < 256)
    (h : lead? b = some (v, n + 1, lo, hi)) :
    decodeFrom 0 0 0 0 (b.toUInt8 :: bs) = decodeFrom v (n + 1) lo hi bs := by
  rw [decodeFrom, Nat.toUInt8_eq, UInt8.toNat_ofNat_of_lt' hb, h]

private theorem decodeFrom_continue {acc n lo hi b : Nat} (bs : List UInt8) (hb : b < 256)
    (hlo : lo ≤ b) (hhi : b ≤ hi) :
    decodeFrom acc (n + 2) lo hi (b.toUInt8 :: bs) =
      decodeFrom (acc * 64 + (b - 0x80)) (n + 1) 0x80 0xBF bs := by
  rw [decodeFrom, Nat.toUInt8_eq, UInt8.toNat_ofNat_of_lt' hb, continuation?, if_pos ⟨hlo, hhi⟩]

private theorem decodeFrom_last {acc lo hi b : Nat} (bs : List UInt8) (hb : b < 256) (hlo : lo ≤ b)
    (hhi : b ≤ hi) :
    decodeFrom acc 1 lo hi (b.toUInt8 :: bs) =
      (decodeFrom 0 0 0 0 bs).map (CodePoint.ofNat (acc * 64 + (b - 0x80)) :: ·) := by
  rw [decodeFrom, Nat.toUInt8_eq, UInt8.toNat_ofNat_of_lt' hb, continuation?, if_pos ⟨hlo, hhi⟩]

/-- The first octet of three, with bounds that the second one keeps. -/
theorem exists_lead?_three {n : Nat} (hlo : 0x800 ≤ n) (hhi : n < 0x10000)
    (hs : n < 0xD800 ∨ 0xE000 ≤ n) :
    ∃ lo hi, lead? (0xE0 + n / 4096) = some (n / 4096, 2, lo, hi) ∧
      lo ≤ 0x80 + n / 64 % 64 ∧ 0x80 + n / 64 % 64 ≤ hi := by
  unfold lead?
  rw [if_neg (by omega), if_neg (by omega)]
  by_cases h0 : n / 4096 = 0
  · rw [h0]
    exact ⟨_, _, rfl, by omega, by omega⟩
  by_cases hd : n / 4096 = 0xD
  · rw [hd]
    exact ⟨_, _, rfl, by omega, by omega⟩
  rw [if_neg (by omega), if_neg (by omega), if_pos (by omega), Nat.add_sub_cancel_left]
  exact ⟨_, _, rfl, by omega, by omega⟩

/-- The first octet of four, with bounds that the second one keeps. -/
theorem exists_lead?_four {n : Nat} (hlo : 0x10000 ≤ n) (hhi : n < 0x110000) :
    ∃ lo hi, lead? (0xF0 + n / 262144) = some (n / 262144, 3, lo, hi) ∧
      lo ≤ 0x80 + n / 4096 % 64 ∧ 0x80 + n / 4096 % 64 ≤ hi := by
  unfold lead?
  rw [if_neg (by omega), if_neg (by omega), if_neg (by omega), if_neg (by omega),
    if_neg (by omega)]
  by_cases h0 : n / 262144 = 0
  · rw [h0]
    exact ⟨_, _, rfl, by omega, by omega⟩
  by_cases h4 : n / 262144 = 4
  · rw [h4]
    exact ⟨_, _, rfl, by omega, by omega⟩
  rw [if_neg (by omega), if_pos (by omega), Nat.add_sub_cancel_left]
  exact ⟨_, _, rfl, by omega, by omega⟩

private theorem decodeFrom_encodeChar {c : CodePoint} (h : c.isSurrogate = false)
    (bs : List UInt8) :
    decodeFrom 0 0 0 0 (encodeChar c ++ bs) = (decodeFrom 0 0 0 0 bs).map (c :: ·) := by
  have hval {n : Nat} (hn : n = c.val) : CodePoint.ofNat n = c := by
    rw [hn, CodePoint.ofNat_val]
  have hs : c.val < 0xD800 ∨ 0xE000 ≤ c.val := by
    simp only [CodePoint.isSurrogate, Bool.and_eq_false_iff, decide_eq_false_iff_not] at h
    omega
  have hlt := c.val_lt
  unfold encodeChar
  dsimp only
  split_ifs with h1 h2 h3
  · have hsize : c.val < 256 := by omega
    rw [List.singleton_append, decodeFrom, Nat.toUInt8_eq, UInt8.toNat_ofNat_of_lt' hsize, lead?,
      if_pos h1]
    dsimp only
    rw [CodePoint.ofNat_val]
  · have hlead : lead? (0xC0 + c.val / 64) = some (c.val / 64, 1, 0x80, 0xBF) := by
      rw [lead?, if_neg (by omega), if_pos (by omega), Nat.add_sub_cancel_left]
    rw [List.cons_append, decodeFrom_lead _ (by omega) hlead, List.singleton_append,
      decodeFrom_last _ (by omega) (by omega) (by omega), hval (by omega)]
  · obtain ⟨lo, hi, hlead, hlo, hhi⟩ := exists_lead?_three (by omega) h3 hs
    rw [List.cons_append, decodeFrom_lead _ (by omega) hlead, List.cons_append,
      decodeFrom_continue _ (by omega) hlo hhi, List.singleton_append,
      decodeFrom_last _ (by omega) (by omega) (by omega), hval (by omega)]
  · obtain ⟨lo, hi, hlead, hlo, hhi⟩ := exists_lead?_four (by omega) hlt
    rw [List.cons_append, decodeFrom_lead _ (by omega) hlead, List.cons_append,
      decodeFrom_continue _ (by omega) hlo hhi, List.cons_append,
      decodeFrom_continue _ (by omega) (by omega) (by omega), List.singleton_append,
      decodeFrom_last _ (by omega) (by omega) (by omega), hval (by omega)]

/-- A text without surrogates is decoded from its octets. -/
theorem decode?_encode {t : Text} (h : ∀ c ∈ t, c.isSurrogate = false) :
    decode? (encode t) = some t := by
  induction t with
  | nil => rfl
  | cons c t ih =>
    obtain ⟨hc, ht⟩ := List.forall_mem_cons.1 h
    rw [decode?, encode, List.flatMap_cons, decodeFrom_encodeChar hc]
    exact Option.map_eq_some_iff.2 ⟨t, ih ht, rfl⟩

end LedgerTags.Text.Utf8
