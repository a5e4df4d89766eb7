import FlatQuery.Proofs.Text.ByteRanges
import FlatQuery.Proofs.Text.Words
import Mathlib.Data.List.Induction

namespace FlatQuery
namespace Utf8

variable {c : Char} {t : Text} {bytes : Bytes}

section Characters

theorem toNat_toUInt8 (h : n < 256) : n.toUInt8.toNat = n := by
  simpa [Nat.toUInt8] using h

theorem isValidChar_toNat (c : Char) : c.toNat.isValidChar :=
  c.valid

theorem toNat_lt (c : Char) : c.toNat < 0x110000 := by
  have := isValidChar_toNat c
  unfold Nat.isValidChar at this
  omega

theorem encodeChar_ne_nil : encodeChar c ≠ [] := by
  rw [← List.length_pos_iff, Text.length_encodeChar]
  exact c.utf8Size_pos

-- Only the bytes of a character that is not ASCII have their highest bit set.
theorem toNat_of_mem_encodeChar {b : UInt8} (hb : b ∈ encodeChar c) (h : b.toNat < 0x80) :
    b.toNat = c.toNat := by
  have hc := toNat_lt c
  rw [encodeChar] at hb
  split at hb
  case isTrue h₁ => rw [List.mem_singleton.mp hb, toNat_toUInt8 (by omega)]
  case isFalse h₁ =>
    have hn {n : Nat} (hl : 0x80 ≤ n) (hu : n < 0x100) (he : b = n.toUInt8) : False := by
      rw [he, toNat_toUInt8 hu] at h
      omega
    exfalso
    split at hb
    case isTrue h₂ =>
      simp only [List.mem_cons, List.not_mem_nil, or_false] at hb
      obtain hb | hb := hb
      all_goals exact hn (by omega) (by omega) hb
    case isFalse h₂ =>
      split at hb
      case isTrue h₃ =>
        simp only [List.mem_cons, List.not_mem_nil, or_false] at hb
        obtain hb | hb | hb := hb
        all_goals exact hn (by omega) (by omega) hb
      case isFalse h₃ =>
        simp only [List.mem_cons, List.not_mem_nil, or_false] at hb
        obtain hb | hb | hb | hb := hb
        all_goals exact hn (by omega) (by omega) hb

theorem isContinuation_of_lt (h : n < 0x40) : isContinuation (0x80 + n).toUInt8 := by
  simp [isContinuation]
  omega

theorem ofNat_eq (h : n = c.toNat) : Char.ofNat n = c := by
  rw [h, Char.ofNat_toNat]

-- The first byte tells how many there are, and the digits to base 64 are put together again.
theorem firstChar?_encodeChar (c : Char) (bytes : Bytes) :
    firstChar? (encodeChar c ++ bytes) = some (c, (encodeChar c).length - 1) := by
  have hc := toNat_lt c
  have hv := isValidChar_toNat c
  have hd {n : Nat} := isContinuation_of_lt (Nat.mod_lt n (show 0 < 0x40 by decide))
  have hb {n : Nat} : (0x80 + n % 0x40).toUInt8.toNat = 0x80 + n % 0x40 := toNat_toUInt8 (by omega)
  generalize hn : c.toNat = n at hc hv
  -- A case for each length of the encoding, shortest first.
  rw [encodeChar]
  simp only [hn]
  split
  case isTrue h₁ =>
    have hl := toNat_toUInt8 (show n < 256 by omega)
    simp [firstChar?, hl, h₁, ofNat_eq hn.symm]
  case isFalse h₁ =>
    split
    case isTrue h₂ =>
      have hl := toNat_toUInt8 (show 0xC0 + n / 0x40 < 256 by omega)
      simp only [List.cons_append, List.nil_append, firstChar?, hl, hb, hd]
      rw [if_neg (by omega), if_neg (by omega), if_pos (by omega), if_pos trivial,
        ofNat_eq (c := c)]
      · rfl
      · omega
    case isFalse h₂ =>
      split
      case isTrue h₃ =>
        have hl := toNat_toUInt8 (show 0xE0 + n / 0x1000 < 256 by omega)
        have he : (0xE0 + n / 0x1000 - 0xE0) * 0x1000 + (0x80 + n / 0x40 % 0x40 - 0x80) * 0x40 +
            (0x80 + n % 0x40 - 0x80) = n := by omega
        simp only [List.cons_append, List.nil_append, firstChar?, hl, hb, hd, he, hv]
        rw [if_neg (by omega), if_neg (by omega), if_neg (by omega), if_pos (by omega), if_pos,
          ofNat_eq hn.symm]
        · rfl
        · simp
          omega
      case isFalse h₃ =>
        have hl := toNat_toUInt8 (show 0xF0 + n / 0x40000 < 256 by omega)
        have he : (0xF0 + n / 0x40000 - 0xF0) * 0x40000 + (0x80 + n / 0x1000 % 0x40 - 0x80) * 0x1000
            + (0x80 + n / 0x40 % 0x40 - 0x80) * 0x40 + (0x80 + n % 0x40 - 0x80) = n := by omega
        simp only [List.cons_append, List.nil_append, firstChar?, hl, hb, hd, he, hv]
        rw [if_neg (by omega), if_neg (by omega), if_neg (by omega), if_neg (by omega),
          if_pos (by omega), if_pos, ofNat_eq hn.symm]
        · rfl
        · simp
          omega

end Characters

section Texts

theorem encode_cons : encode (c :: t) = encodeChar c ++ encode t :=
  rfl

theorem encode_ne_nil (h : t ≠ []) : encode t ≠ [] := by
  obtain ⟨c, t, rfl⟩ := List.exists_cons_of_ne_nil h
  exact List.append_ne_nil_of_left_ne_nil encodeChar_ne_nil _

-- The rest of a character is passed over.
theorem decodeFrom_append {u : Bytes} :
    decodeFrom good u.length (u ++ bytes) = decodeFrom (good + u.length) 0 bytes := by
  induction u generalizing good
  case nil => rfl
  case cons b u hi =>
    rw [List.cons_append, List.length_cons, decodeFrom, hi, Nat.add_assoc, Nat.add_comm 1]

theorem decodeFrom_encode : decodeFrom good 0 (encode t) = .ok t := by
  induction t generalizing good
  case nil => rfl
  case cons c t hi =>
    obtain ⟨b, u, hu⟩ := List.exists_cons_of_ne_nil (encodeChar_ne_nil (c := c))
    have hf := firstChar?_encodeChar c (encode t)
    rw [hu, List.cons_append, List.length_cons, Nat.add_sub_cancel] at hf
    rw [encode_cons, hu, List.cons_append, decodeFrom, hf]
    simp only [decodeFrom_append, hi]
    rfl

theorem decode_encode : decode (encode t) = .ok t :=
  decodeFrom_encode

theorem mem_encode {b : UInt8} (hb : b ∈ encode t) (h : b.toNat < 0x80) :
    ∃ c ∈ t, b.toNat = c.toNat := by
  obtain ⟨c, hc, hb⟩ := List.mem_flatMap.mp hb
  exact ⟨c, hc, toNat_of_mem_encodeChar hb h⟩

theorem not_mem_encode (hc : c.toNat < 0x80) (h : c ∉ t) : c.toNat.toUInt8 ∉ encode t := by
  intro hm
  have hn := toNat_toUInt8 (show c.toNat < 256 by omega)
  obtain ⟨d, hd, he⟩ := mem_encode hm (by omega)
  rw [hn] at he
  exact h (Char.toNat_inj.mp he ▸ hd)

theorem head?_encode {b : UInt8} (hb : (encode t).head? = some b) (h : b.toNat < 0x80) :
    ∃ c, t.head? = some c ∧ b.toNat = c.toNat := by
  cases t
  case nil => contradiction
  case cons c t =>
    obtain ⟨b', u, hu⟩ := List.exists_cons_of_ne_nil (encodeChar_ne_nil (c := c))
    rw [encode_cons, hu, List.cons_append, List.head?_cons, Option.some.injEq] at hb
    exact ⟨c, rfl, toNat_of_mem_encodeChar (hu ▸ hb ▸ .head _) h⟩

theorem getLast?_encode {b : UInt8} (hb : (encode t).getLast? = some b) (h : b.toNat < 0x80) :
    ∃ c, t.getLast? = some c ∧ b.toNat = c.toNat := by
  induction t using List.reverseRecOn
  case nil => contradiction
  case append_singleton t c _ =>
    have he : encode (t ++ [c]) = encode t ++ encodeChar c := by
      rw [Text.encode_append]
      simp [encode]
    have hl := List.getLast?_eq_some_getLast (encodeChar_ne_nil (c := c))
    rw [he, List.getLast?_append, hl, Option.some_or, Option.some.injEq] at hb
    exact ⟨c, List.getLast?_concat .., toNat_of_mem_encodeChar (hb ▸ List.getLast_mem _) h⟩

end Texts
end Utf8
end FlatQuery
