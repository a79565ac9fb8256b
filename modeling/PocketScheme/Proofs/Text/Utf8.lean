import PocketScheme.Text.Basic
import Mathlib.Data.List.Basic
import Mathlib.Tactic.Common

/-!
The bytes of characters spell these characters again.

* `decodeChar_encode`: the bytes of one character, whatever follows;
* `decode_bytes_ofChars`: the bytes of a text of characters;
* `decode_newline`: bytes on both sides of a newline are decoded by themselves.
-/

namespace PocketScheme.Text

lemma scalar_toNat (c : Char) {least : Nat} (h : least ≤ c.toNat) :
    scalar least c.toNat = some c := by
  have hvalid : c.toNat < 0xd800 ∨ 0xdfff < c.toNat ∧ c.toNat < 0x110000 := c.valid
  rw [scalar, if_pos, Char.ofNat_toNat]
  simp only [Bool.and_eq_true, Bool.not_eq_true', Bool.and_eq_false_iff, decide_eq_true_eq,
    decide_eq_false_iff_not]
  omega

lemma continuation_ofNat {n : Nat} (h : n < 64) :
    continuation (UInt8.ofNat (n + 128)) = some n := by
  have hn : (UInt8.ofNat (n + 128)).toNat = n + 128 := by
    rw [UInt8.toNat_ofNat']
    omega
  rw [continuation, hn, if_pos (by simp; omega), Nat.add_sub_cancel]

lemma decodeChar_two {b b₁ : UInt8} {rest : Bytes} {c : Char} (n n₁ : Nat)
    (hb : b.toNat = n + 0xc0) (hn : n < 0x20) (h₁ : continuation b₁ = some n₁)
    (hc : scalar 0x80 (n * 64 + n₁) = some c) : decodeChar b (b₁ :: rest) = some (c, 1) := by
  have hlo : ¬ b.toNat < 0x80 := by omega
  have hhi : b.toNat < 0xe0 := by omega
  simp [decodeChar, hlo, hhi, show 0xc0 ≤ b.toNat by omega, show b.toNat - 0xc0 = n by omega, h₁,
    hc]

lemma decodeChar_three {b b₁ b₂ : UInt8} {rest : Bytes} {c : Char} (n n₁ n₂ : Nat)
    (hb : b.toNat = n + 0xe0) (hn : n < 0x10) (h₁ : continuation b₁ = some n₁)
    (h₂ : continuation b₂ = some n₂) (hc : scalar 0x800 ((n * 64 + n₁) * 64 + n₂) = some c) :
    decodeChar b (b₁ :: b₂ :: rest) = some (c, 2) := by
  have hlo : ¬ b.toNat < 0xe0 := by omega
  have hhi : b.toNat < 0xf0 := by omega
  simp [decodeChar, hlo, hhi, show ¬ b.toNat < 0x80 by omega, show 0xe0 ≤ b.toNat by omega,
    show b.toNat - 0xe0 = n by omega, h₁, h₂, hc]

lemma decodeChar_four {b b₁ b₂ b₃ : UInt8} {rest : Bytes} {c : Char} (n n₁ n₂ n₃ : Nat)
    (hb : b.toNat = n + 0xf0) (hn : n < 8) (h₁ : continuation b₁ = some n₁)
    (h₂ : continuation b₂ = some n₂) (h₃ : continuation b₃ = some n₃)
    (hc : scalar 0x10000 (((n * 64 + n₁) * 64 + n₂) * 64 + n₃) = some c) :
    decodeChar b (b₁ :: b₂ :: b₃ :: rest) = some (c, 3) := by
  have hlo : ¬ b.toNat < 0xf0 := by omega
  have hhi : b.toNat < 0xf8 := by omega
  simp [decodeChar, hlo, hhi, show ¬ b.toNat < 0x80 by omega, show ¬ b.toNat < 0xe0 by omega,
    show 0xf0 ≤ b.toNat by omega, show b.toNat - 0xf0 = n by omega, h₁, h₂, h₃, hc]

/-- A character is read from its bytes, whatever follows. -/
lemma decodeChar_encode (c : Char) (rest : Bytes) :
    ∃ b tail, String.utf8EncodeChar c = b :: tail ∧
      decodeChar b (tail ++ rest) = some (c, tail.length) := by
  have hval : c.val.toNat = c.toNat := rfl
  have hlt : c.toNat < 0x110000 := by
    have hvalid : c.toNat < 0xd800 ∨ 0xdfff < c.toNat ∧ c.toNat < 0x110000 := c.valid
    omega
  rw [String.utf8EncodeChar.eq_1, hval]
  -- one case for each length
  split_ifs with h1 h2 h3
  · refine ⟨_, [], rfl, ?_⟩
    have hb : (UInt8.ofNat c.toNat).toNat = c.toNat := by rw [UInt8.toNat_ofNat']; omega
    rw [decodeChar.eq_def]
    dsimp only
    rw [hb, if_pos (by omega), Char.ofNat_toNat]
    rfl
  · refine ⟨_, [_], rfl, decodeChar_two (c.toNat / 64) (c.toNat % 64) ?_ (by omega)
      (continuation_ofNat (by omega)) ?_⟩
    · rw [UInt8.toNat_ofNat']; omega
    · rw [show c.toNat / 64 * 64 + c.toNat % 64 = c.toNat by omega]
      exact scalar_toNat c (by omega)
  · refine ⟨_, [_, _], rfl, decodeChar_three (c.toNat / 4096) (c.toNat / 64 % 64)
      (c.toNat % 64) ?_ (by omega) (continuation_ofNat (by omega))
      (continuation_ofNat (by omega)) ?_⟩
    · rw [UInt8.toNat_ofNat']; omega
    · rw [show (c.toNat / 4096 * 64 + c.toNat / 64 % 64) * 64 + c.toNat % 64 = c.toNat by omega]
      exact scalar_toNat c (by omega)
  · refine ⟨_, [_, _, _], rfl, decodeChar_four (c.toNat / 262144) (c.toNat / 4096 % 64)
      (c.toNat / 64 % 64) (c.toNat % 64) ?_ (by omega) (continuation_ofNat (by omega))
      (continuation_ofNat (by omega)) (continuation_ofNat (by omega)) ?_⟩
    · rw [UInt8.toNat_ofNat']; omega
    · rw [show ((c.toNat / 262144 * 64 + c.toNat / 4096 % 64) * 64 + c.toNat / 64 % 64) * 64 +
        c.toNat % 64 = c.toNat by omega]
      exact scalar_toNat c (by omega)

lemma glyphsFrom_length (tail rest : Bytes) :
    glyphsFrom tail.length (tail ++ rest) = glyphsFrom 0 rest := by
  induction tail with
  | nil => rfl
  | cons b tail ih => exact ih

/-- The bytes of characters are read as these characters. -/
lemma ofBytes_bytes_ofChars (cs : List Char) : ofBytes (ofChars cs).bytes = ofChars cs := by
  rw [ofBytes, ofChars, bytes, Text.ofList.injEq]
  induction cs with
  | nil => rfl
  | cons c cs ih =>
      rw [List.map_cons, List.flatMap_cons]
      obtain ⟨b, tail, htail, hdecode⟩ :=
        decodeChar_encode c ((cs.map Glyph.char).flatMap Glyph.bytes)
      rw [Glyph.bytes, htail, List.cons_append, glyphsFrom, hdecode]
      simp only [glyphsFrom_length, ih]

/-- Decoding gives back the characters whose bytes they are. -/
lemma decode_bytes_ofChars (cs : List Char) : decode (ofChars cs).bytes = cs := by
  rw [decode, ofBytes_bytes_ofChars, chars_ofChars]

/-! ### Line breaks -/

/-- A newline is part of no longer sequence. -/
lemma continuation_newline : continuation 10 = none := by decide

/-- What follows a newline has no part in a character in front of it. -/
lemma decodeChar_newline (b : UInt8) (front rest : Bytes) :
    decodeChar b (front ++ 10 :: rest) = decodeChar b front := by
  rw [decodeChar.eq_def, decodeChar.eq_def]
  -- at most three bytes are looked at, and if one of them is the newline there is no character
  rcases front with _ | ⟨b₁, _ | ⟨b₂, _ | ⟨b₃, front⟩⟩⟩ <;>
    rcases rest with _ | ⟨c₁, _ | ⟨c₂, rest⟩⟩ <;> simp [continuation_newline]

/-- A character takes no more bytes than there are. -/
lemma le_length_of_decodeChar {b : UInt8} {rest : Bytes} {c : Char} {n : Nat}
    (h : decodeChar b rest = some (c, n)) : n ≤ rest.length := by
  rw [decodeChar.eq_def] at h
  -- how many bytes there are decides which of the branches can give a character
  rcases rest with _ | ⟨b₁, _ | ⟨b₂, _ | ⟨b₃, rest⟩⟩⟩ <;> dsimp only at h <;> split_ifs at h <;>
    simp_all [Option.bind_eq_some_iff] <;> omega

lemma glyphsFrom_newline {n : Nat} {front : Bytes} (hn : n ≤ front.length) (rest : Bytes) :
    glyphsFrom n (front ++ 10 :: rest) = glyphsFrom n front ++ .char '\n' :: glyphsFrom 0 rest := by
  induction front generalizing n with
  | nil =>
      obtain rfl := Nat.le_zero.mp hn
      rfl
  | cons b front ih =>
      cases n with
      | succ n => exact ih (Nat.le_of_succ_le_succ hn)
      | zero =>
          rw [List.cons_append, glyphsFrom, glyphsFrom, decodeChar_newline]
          cases hchar : decodeChar b front with
          | none => simp only [ih (Nat.zero_le _), List.cons_append]
          | some cn => simp only [ih (le_length_of_decodeChar hchar), List.cons_append]

/-- Bytes on both sides of a newline are decoded by themselves. -/
lemma decode_newline (front rest : Bytes) :
    decode (front ++ bytes "\n" ++ rest) = decode front ++ '\n' :: decode rest := by
  have hnewline : bytes "\n" = [10] := by decide
  rw [hnewline, List.append_assoc, List.singleton_append, decode, chars, ofBytes,
    glyphsFrom_newline (Nat.zero_le _), List.map_append]
  rfl

end PocketScheme.Text
