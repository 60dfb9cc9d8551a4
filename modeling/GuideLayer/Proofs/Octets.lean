import GuideLayer.Url.Percent
import Mathlib.Data.List.Flatten

/-!
The bytes that a text with percent codes stands for. As long as the sign of a
code is itself written as a code, decoding gives back the bytes of the text that
was written, and these tell any two texts apart. What is written holds none of
the reserved characters, unless it is the sign or a digit of a code.
-/

namespace GuideLayer

open List

namespace Percent

/-- The bytes of a text in UTF-8. -/
def octets (cs : List Char) : List UInt8 := cs.flatMap String.utf8EncodeChar

@[simp] theorem octets_cons (c : Char) (cs : List Char) :
    octets (c :: cs) = String.utf8EncodeChar c ++ octets cs := rfl

/-- No two texts have the same bytes. -/
theorem octets_injective : Function.Injective octets := by
  intro cs ds h
  have hbytes : cs.utf8Encode = ds.utf8Encode := congrArg List.toByteArray h
  have hread := congrArg ByteArray.utf8Decode? hbytes
  simpa using hread

theorem octets_eq_nil_iff {cs : List Char} : octets cs = [] ↔ cs = [] :=
  ⟨fun h => octets_injective h, fun h => h ▸ rfl⟩

/-- A text from which characters are left out has no more bytes, and fewer if any is. -/
theorem length_octets_le {cs ds : List Char} (h : cs <+ ds) :
    (octets cs).length ≤ (octets ds).length :=
  (h.flatMap String.utf8EncodeChar).length_le

theorem length_octets_lt {cs ds : List Char} (h : cs <+ ds) (hne : cs ≠ ds) :
    (octets cs).length < (octets ds).length := by
  have hsub : octets cs <+ octets ds := h.flatMap String.utf8EncodeChar
  refine Nat.lt_of_le_of_ne hsub.length_le (fun heq => hne ?_)
  exact octets_injective (hsub.eq_of_length heq)

/-! ### Decoding -/

@[simp] theorem decode_nil : decode [] = [] := by
  unfold decode
  rfl

theorem decode_cons {c : Char} (h : c ≠ '%') (rest : List Char) :
    decode (c :: rest) = String.utf8EncodeChar c ++ decode rest := by
  rw [decode]
  rintro a b rest rfl
  exact absurd rfl h

theorem hexValue?_hexDigit : ∀ n < 16, hexValue? (hexDigit n) = some n := by
  decide

theorem decode_encodeByte (b : UInt8) (rest : List Char) :
    decode (encodeByte b ++ rest) = b :: decode rest := by
  have hb : b.toNat < 256 := UInt8.toNat_lt_size b
  have hhigh := hexValue?_hexDigit (b.toNat / 16) (by omega)
  have hlow := hexValue?_hexDigit (b.toNat % 16) (by omega)
  have hvalue : UInt8.ofNat (16 * (b.toNat / 16) + b.toNat % 16) = b := by
    rw [Nat.div_add_mod, UInt8.ofNat_toNat]
  rw [encodeByte, cons_append, cons_append, cons_append, nil_append, decode, hhigh, hlow]
  dsimp only
  rw [hvalue]

theorem decode_encodeChar (c : Char) (rest : List Char) :
    decode (encodeChar c ++ rest) = String.utf8EncodeChar c ++ decode rest := by
  unfold encodeChar
  induction String.utf8EncodeChar c with
  | nil => rfl
  | cons b bs ih => rw [flatMap_cons, append_assoc, decode_encodeByte, ih, cons_append]

variable {reserved : Char → Bool}

/-- What is written stands for the bytes of the text, whatever comes after it. -/
theorem decode_encode_append (h : reserved '%' = true) (cs rest : List Char) :
    decode (encode reserved cs ++ rest) = octets cs ++ decode rest := by
  induction cs with
  | nil => rfl
  | cons c cs ih =>
      have hcons : encode reserved (c :: cs) =
          (if reserved c || decide (127 ≤ c.toNat) then encodeChar c else [c]) ++
            encode reserved cs := rfl
      rw [hcons, append_assoc, octets_cons, append_assoc, ← ih]
      split
      · exact decode_encodeChar c _
      · rename_i hplain
        refine decode_cons ?_ _
        rintro rfl
        simp [h] at hplain

theorem decode_encode (h : reserved '%' = true) (cs : List Char) :
    decode (encode reserved cs) = octets cs := by
  simpa using decode_encode_append h cs []

/-! ### The characters of what is written -/

/-- The characters of codes. -/
def codeChars : List Char := "%0123456789ABCDEF".toList

theorem hexDigit_mem : ∀ n < 16, hexDigit n ∈ codeChars := by
  decide

theorem mem_codeChars_of_mem_encodeChar {c d : Char} (h : d ∈ encodeChar c) : d ∈ codeChars := by
  obtain ⟨b, -, hd⟩ := mem_flatMap.mp h
  have hb : b.toNat < 256 := UInt8.toNat_lt_size b
  obtain rfl | rfl | rfl : d = '%' ∨ d = hexDigit (b.toNat / 16) ∨ d = hexDigit (b.toNat % 16) := by
    simpa [encodeByte] using hd
  · decide
  · exact hexDigit_mem _ (by omega)
  · exact hexDigit_mem _ (by omega)

theorem mem_encode {c : Char} {cs : List Char} (h : c ∈ encode reserved cs) :
    c ∈ codeChars ∨ reserved c = false ∧ c ∈ cs := by
  obtain ⟨d, hd, hc⟩ := mem_flatMap.mp h
  split at hc
  · exact .inl (mem_codeChars_of_mem_encodeChar hc)
  · rename_i hplain
    obtain rfl := mem_singleton.mp hc
    rw [Bool.or_eq_true, not_or] at hplain
    exact .inr ⟨Bool.eq_false_iff.mpr hplain.1, hd⟩

end Percent

end GuideLayer
