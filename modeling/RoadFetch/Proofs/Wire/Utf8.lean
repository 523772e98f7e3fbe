import RoadFetch.Wire.Utf8
import Mathlib

/-! # UTF-8 decoding reads back every text, and nothing else

The bytes of a text are the UTF-8 forms of its characters, one after another. Each form is led
by a byte that announces its width, continues with bytes in the range its lead allows and spells
the character's code point, so the decoder takes each form back to its character; the bytes of
any text decode to that text (`decode_toUTF8`), and the bytes that decode to a text are its bytes
(`toUTF8_of_decode`).
-/

namespace RoadFetch.Utf8

theorem width_eq (b : UInt8) : width b =
    if b.toNat < 0x80 then 1 else if 0xC2 ≤ b.toNat ∧ b.toNat ≤ 0xDF then 2
    else if 0xE0 ≤ b.toNat ∧ b.toNat ≤ 0xEF then 3 else if 0xF0 ≤ b.toNat ∧ b.toNat ≤ 0xF4 then 4 else 0 := by
  simp only [width, UInt8.lt_iff_toNat_lt, UInt8.le_iff_toNat_le, Bool.and_eq_true, decide_eq_true_eq,
    UInt8.reduceToNat]

theorem isTail_eq (b : UInt8) : isTail b = decide (0x80 ≤ b.toNat ∧ b.toNat ≤ 0xBF) := by
  simp [isTail, UInt8.le_iff_toNat_le]

theorem secondFits_eq (a b : UInt8) : secondFits a b =
    if a.toNat = 0xE0 then decide (0xA0 ≤ b.toNat ∧ b.toNat ≤ 0xBF)
    else if a.toNat = 0xED then decide (0x80 ≤ b.toNat ∧ b.toNat ≤ 0x9F)
    else if a.toNat = 0xF0 then decide (0x90 ≤ b.toNat ∧ b.toNat ≤ 0xBF)
    else if a.toNat = 0xF4 then decide (0x80 ≤ b.toNat ∧ b.toNat ≤ 0x8F)
    else decide (0x80 ≤ b.toNat ∧ b.toNat ≤ 0xBF) := by
  simp only [secondFits, isTail, UInt8.le_iff_toNat_le, beq_iff_eq, ← UInt8.toNat_inj, UInt8.reduceToNat,
    Bool.decide_and]

theorem low6_eq (b : UInt8) : low6 b = b.toNat % 64 := by
  simp only [low6, UInt8.toNat_and]
  exact Nat.and_two_pow_sub_one_eq_mod _ 6

theorem toNat_and_mask (b m : UInt8) (k : Nat) (hm : m.toNat = 2 ^ k - 1) :
    (b &&& m).toNat = b.toNat % 2 ^ k := by
  rw [UInt8.toNat_and, hm]
  exact Nat.and_two_pow_sub_one_eq_mod _ k

theorem toNat_valid (c : Char) :
    c.val.toNat < 0xD800 ∨ (0xDFFF < c.val.toNat ∧ c.val.toNat < 0x110000) := by
  rcases c.valid with h | ⟨h1, h2⟩
  · exact .inl h
  · exact .inr ⟨h1, h2⟩

theorem ofNat_val_toNat (c : Char) : Char.ofNat c.val.toNat = c := Char.ofNat_toNat c

theorem decodeFrom_one {c : Char} (h : c.val.toNat ≤ 0x7F) (off : Nat) (rest : List UInt8) :
    decodeFrom off (String.utf8EncodeChar c ++ rest) = consOk c (decodeFrom (off + 1) rest) := by
  have hb : (UInt8.ofNat c.val.toNat).toNat = c.val.toNat := by rw [UInt8.toNat_ofNat']; omega
  have hw : width (UInt8.ofNat c.val.toNat) = 1 := by rw [width_eq, if_pos (by omega)]
  simp only [String.utf8EncodeChar]
  rw [if_pos h]
  simp only [List.cons_append, List.nil_append, decodeFrom, hw, hb, ofNat_val_toNat]

theorem decodeFrom_two {c : Char} {v : Nat} (hv : c.val.toNat = v) (h1 : 0x7F < v) (h2 : v ≤ 0x7FF)
    (off : Nat) (rest : List UInt8) :
    decodeFrom off (String.utf8EncodeChar c ++ rest) = consOk c (decodeFrom (off + 2) rest) := by
  have ha : (UInt8.ofNat (v / 64 % 32 + 0xC0)).toNat = v / 64 % 32 + 0xC0 := by
    rw [UInt8.toNat_ofNat']; omega
  have hb : (UInt8.ofNat (v % 64 + 0x80)).toNat = v % 64 + 0x80 := by rw [UInt8.toNat_ofNat']; omega
  have hw : width (UInt8.ofNat (v / 64 % 32 + 0xC0)) = 2 := by rw [width_eq, ha]; split_ifs <;> omega
  have hs : secondFits (UInt8.ofNat (v / 64 % 32 + 0xC0)) (UInt8.ofNat (v % 64 + 0x80)) = true := by
    rw [secondFits_eq, ha, hb]; split_ifs <;> simp <;> omega
  have hcp : codePoint [UInt8.ofNat (v / 64 % 32 + 0xC0), UInt8.ofNat (v % 64 + 0x80)] = v := by
    simp only [codePoint, low6_eq, hb, toNat_and_mask _ 0x1F 5 rfl, ha, Nat.reducePow]; omega
  simp only [String.utf8EncodeChar, hv]
  rw [if_neg (by omega), if_pos h2]
  simp only [List.cons_append, List.nil_append, decodeFrom, hw, hs, if_true, hcp]
  rw [← hv, ofNat_val_toNat]

theorem decodeFrom_three {c : Char} {v : Nat} (hv : c.val.toNat = v) (h1 : 0x7FF < v) (h2 : v ≤ 0xFFFF)
    (off : Nat) (rest : List UInt8) :
    decodeFrom off (String.utf8EncodeChar c ++ rest) = consOk c (decodeFrom (off + 3) rest) := by
  -- surrogates are no characters, which is what the second byte after `ED` checks
  have hvalid : v < 0xD800 ∨ 0xDFFF < v := by have := toNat_valid c; omega
  have ha : (UInt8.ofNat (v / 4096 % 16 + 0xE0)).toNat = v / 4096 % 16 + 0xE0 := by
    rw [UInt8.toNat_ofNat']; omega
  have hb : (UInt8.ofNat (v / 64 % 64 + 0x80)).toNat = v / 64 % 64 + 0x80 := by
    rw [UInt8.toNat_ofNat']; omega
  have hc : (UInt8.ofNat (v % 64 + 0x80)).toNat = v % 64 + 0x80 := by rw [UInt8.toNat_ofNat']; omega
  have hw : width (UInt8.ofNat (v / 4096 % 16 + 0xE0)) = 3 := by rw [width_eq, ha]; split_ifs <;> omega
  have hs : secondFits (UInt8.ofNat (v / 4096 % 16 + 0xE0)) (UInt8.ofNat (v / 64 % 64 + 0x80)) = true := by
    rw [secondFits_eq, ha, hb]; split_ifs <;> simp <;> omega
  have ht : isTail (UInt8.ofNat (v % 64 + 0x80)) = true := by rw [isTail_eq, hc]; simp; omega
  have hcp : codePoint [UInt8.ofNat (v / 4096 % 16 + 0xE0), UInt8.ofNat (v / 64 % 64 + 0x80),
      UInt8.ofNat (v % 64 + 0x80)] = v := by
    simp only [codePoint, low6_eq, hb, hc, toNat_and_mask _ 0x0F 4 rfl, ha, Nat.reducePow]; omega
  simp only [String.utf8EncodeChar, hv]
  rw [if_neg (by omega), if_neg (by omega), if_pos h2]
  simp only [List.cons_append, List.nil_append, decodeFrom, hw, hs, ht, Bool.not_true, Bool.false_eq_true,
    if_false, hcp]
  rw [← hv, ofNat_val_toNat]

theorem decodeFrom_four {c : Char} {v : Nat} (hv : c.val.toNat = v) (h1 : 0xFFFF < v) (off : Nat)
    (rest : List UInt8) :
    decodeFrom off (String.utf8EncodeChar c ++ rest) = consOk c (decodeFrom (off + 4) rest) := by
  have h2 : v < 0x110000 := by have := toNat_valid c; omega
  have ha : (UInt8.ofNat (v / 262144 % 8 + 0xF0)).toNat = v / 262144 % 8 + 0xF0 := by
    rw [UInt8.toNat_ofNat']; omega
  have hb : (UInt8.ofNat (v / 4096 % 64 + 0x80)).toNat = v / 4096 % 64 + 0x80 := by
    rw [UInt8.toNat_ofNat']; omega
  have hc : (UInt8.ofNat (v / 64 % 64 + 0x80)).toNat = v / 64 % 64 + 0x80 := by
    rw [UInt8.toNat_ofNat']; omega
  have hd : (UInt8.ofNat (v % 64 + 0x80)).toNat = v % 64 + 0x80 := by rw [UInt8.toNat_ofNat']; omega
  have hw : width (UInt8.ofNat (v / 262144 % 8 + 0xF0)) = 4 := by rw [width_eq, ha]; split_ifs <;> omega
  have hs : secondFits (UInt8.ofNat (v / 262144 % 8 + 0xF0)) (UInt8.ofNat (v / 4096 % 64 + 0x80)) = true := by
    rw [secondFits_eq, ha, hb]; split_ifs <;> simp <;> omega
  have ht : isTail (UInt8.ofNat (v / 64 % 64 + 0x80)) = true := by rw [isTail_eq, hc]; simp; omega
  have ht' : isTail (UInt8.ofNat (v % 64 + 0x80)) = true := by rw [isTail_eq, hd]; simp; omega
  have hcp : codePoint [UInt8.ofNat (v / 262144 % 8 + 0xF0), UInt8.ofNat (v / 4096 % 64 + 0x80),
      UInt8.ofNat (v / 64 % 64 + 0x80), UInt8.ofNat (v % 64 + 0x80)] = v := by
    simp only [codePoint, low6_eq, hb, hc, hd, toNat_and_mask _ 0x07 3 rfl, ha, Nat.reducePow]; omega
  simp only [String.utf8EncodeChar, hv]
  rw [if_neg (by omega), if_neg (by omega), if_neg (by omega)]
  simp only [List.cons_append, List.nil_append, decodeFrom, hw, hs, ht, ht', Bool.not_true,
    Bool.false_eq_true, if_false, hcp]
  rw [← hv, ofNat_val_toNat]

theorem decodeFrom_encodeChar (c : Char) (off : Nat) (rest : List UInt8) :
    ∃ k, decodeFrom off (String.utf8EncodeChar c ++ rest) = consOk c (decodeFrom (off + k) rest) := by
  by_cases h1 : c.val.toNat ≤ 0x7F
  · exact ⟨1, decodeFrom_one h1 off rest⟩
  by_cases h2 : c.val.toNat ≤ 0x7FF
  · exact ⟨2, decodeFrom_two rfl (by omega) h2 off rest⟩
  by_cases h3 : c.val.toNat ≤ 0xFFFF
  · exact ⟨3, decodeFrom_three rfl (by omega) h3 off rest⟩
  · exact ⟨4, decodeFrom_four rfl (by omega) off rest⟩

theorem decodeFrom_flatMap (cs : List Char) (off : Nat) :
    decodeFrom off (cs.flatMap String.utf8EncodeChar) = .ok cs := by
  induction cs generalizing off with
  | nil => rfl
  | cons c cs ih =>
    obtain ⟨k, hk⟩ := decodeFrom_encodeChar c off (cs.flatMap String.utf8EncodeChar)
    rw [List.flatMap_cons, hk, ih]
    rfl

theorem toList_loop (bs : ByteArray) (i : Nat) (r : List UInt8) :
    ByteArray.toList.loop bs i r = r.reverse ++ bs.data.toList.drop i := by
  fun_induction ByteArray.toList.loop bs i r with
  | case1 i r hi ih =>
    rw [ih, List.reverse_cons, List.append_assoc]
    congr 1
    have hi' : i < bs.data.toList.length := by simpa using hi
    rw [List.drop_eq_getElem_cons hi']
    simp [ByteArray.get!, getElem!_pos bs.data i hi]
  | case2 i r hi =>
    rw [List.drop_of_length_le (by simpa using hi), List.append_nil]

theorem toList_eq_data (bs : ByteArray) : bs.toList = bs.data.toList := by
  rw [ByteArray.toList, toList_loop]
  simp

theorem toList_toByteArray (l : List UInt8) : l.toByteArray.toList = l := by
  simp [toList_eq_data]

/-- The UTF-8 bytes of a text decode to the text. -/
theorem decode_toUTF8 (s : String) : decode s.toUTF8.toList = .ok s := by
  rw [String.toUTF8_eq_toByteArray, ← String.utf8Encode_toList, List.utf8Encode, toList_toByteArray,
    decode, decodeFrom_flatMap]
  simp [Except.map]

/-! ### Decoding reads nothing else

Conversely, every byte string that decodes is the UTF-8 form of what it decodes to: a lead byte
and the bytes the decoder lets follow it spell one code point, which is a character, and that
character is written back as the same bytes. The checks on the second byte are what make this so:
they refuse overlong forms, surrogates and code points past `10FFFF`, the byte strings that would
decode to a character written otherwise. -/

theorem toNat_val_ofNat {v : Nat} (h : v < 0xD800 ∨ (0xDFFF < v ∧ v < 0x110000)) :
    (Char.ofNat v).val.toNat = v := by
  have hv : v.isValidChar := by simp only [Nat.isValidChar]; omega
  simp [Char.ofNat, Char.ofNatAux, hv]

theorem eq_of_toNat {a : UInt8} {n : Nat} (h : a.toNat = n) : UInt8.ofNat n = a := by
  rw [← h, UInt8.ofNat_toNat]

theorem encodeChar_one {a : UInt8} (ha : width a = 1) : String.utf8EncodeChar (Char.ofNat a.toNat) = [a] := by
  have hlt : a.toNat < 0x80 := by rw [width_eq] at ha; split_ifs at ha <;> omega
  have hval := toNat_val_ofNat (v := a.toNat) (.inl (by omega))
  simp only [String.utf8EncodeChar, hval]
  rw [if_pos (by omega), UInt8.ofNat_toNat]

theorem encodeChar_two {a b : UInt8} (ha : width a = 2) (hb : secondFits a b = true) :
    String.utf8EncodeChar (Char.ofNat (codePoint [a, b])) = [a, b] := by
  have ha' : 0xC2 ≤ a.toNat ∧ a.toNat ≤ 0xDF := by rw [width_eq] at ha; split_ifs at ha <;> omega
  have hb' : 0x80 ≤ b.toNat ∧ b.toNat ≤ 0xBF := by
    rw [secondFits_eq] at hb; split_ifs at hb <;> simp at hb <;> omega
  have hcp : codePoint [a, b] = a.toNat % 32 * 64 + b.toNat % 64 := by
    simp only [codePoint, low6_eq, toNat_and_mask _ 0x1F 5 rfl, Nat.reducePow]
  set v := codePoint [a, b]
  have hval := toNat_val_ofNat (v := v) (.inl (by omega))
  simp only [String.utf8EncodeChar, hval]
  rw [if_neg (by omega), if_pos (by omega), eq_of_toNat (a := a) (by omega), eq_of_toNat (a := b) (by omega)]

theorem encodeChar_three {a b c : UInt8} (ha : width a = 3) (hb : secondFits a b = true) (hc : isTail c = true) :
    String.utf8EncodeChar (Char.ofNat (codePoint [a, b, c])) = [a, b, c] := by
  have ha' : 0xE0 ≤ a.toNat ∧ a.toNat ≤ 0xEF := by rw [width_eq] at ha; split_ifs at ha <;> omega
  -- the second byte keeps the code point off overlong forms (after `E0`) and surrogates (after `ED`)
  have hb' : 0x80 ≤ b.toNat ∧ b.toNat ≤ 0xBF ∧ (a.toNat = 0xE0 → 0xA0 ≤ b.toNat) ∧
      (a.toNat = 0xED → b.toNat ≤ 0x9F) := by
    rw [secondFits_eq] at hb; split_ifs at hb <;> simp at hb <;> omega
  have hc' : 0x80 ≤ c.toNat ∧ c.toNat ≤ 0xBF := by simpa [isTail_eq] using hc
  have hcp : codePoint [a, b, c] = (a.toNat % 16 * 64 + b.toNat % 64) * 64 + c.toNat % 64 := by
    simp only [codePoint, low6_eq, toNat_and_mask _ 0x0F 4 rfl, Nat.reducePow]
  set v := codePoint [a, b, c]
  have hval := toNat_val_ofNat (v := v) (by omega)
  simp only [String.utf8EncodeChar, hval]
  rw [if_neg (by omega), if_neg (by omega), if_pos (by omega), eq_of_toNat (a := a) (by omega),
    eq_of_toNat (a := b) (by omega), eq_of_toNat (a := c) (by omega)]

theorem encodeChar_four {a b c d : UInt8} (ha : width a = 4) (hb : secondFits a b = true) (hc : isTail c = true)
    (hd : isTail d = true) :
    String.utf8EncodeChar (Char.ofNat (codePoint [a, b, c, d])) = [a, b, c, d] := by
  have ha' : 0xF0 ≤ a.toNat ∧ a.toNat ≤ 0xF4 := by rw [width_eq] at ha; split_ifs at ha <;> omega
  -- the second byte keeps the code point off overlong forms (after `F0`) and past `10FFFF` (after `F4`)
  have hb' : 0x80 ≤ b.toNat ∧ b.toNat ≤ 0xBF ∧ (a.toNat = 0xF0 → 0x90 ≤ b.toNat) ∧
      (a.toNat = 0xF4 → b.toNat ≤ 0x8F) := by
    rw [secondFits_eq] at hb; split_ifs at hb <;> simp at hb <;> omega
  have hc' : 0x80 ≤ c.toNat ∧ c.toNat ≤ 0xBF := by simpa [isTail_eq] using hc
  have hd' : 0x80 ≤ d.toNat ∧ d.toNat ≤ 0xBF := by simpa [isTail_eq] using hd
  have hcp : codePoint [a, b, c, d] =
      ((a.toNat % 8 * 64 + b.toNat % 64) * 64 + c.toNat % 64) * 64 + d.toNat % 64 := by
    simp only [codePoint, low6_eq, toNat_and_mask _ 0x07 3 rfl, Nat.reducePow]
  set v := codePoint [a, b, c, d]
  have hval := toNat_val_ofNat (v := v) (by omega)
  simp only [String.utf8EncodeChar, hval]
  rw [if_neg (by omega), if_neg (by omega), if_neg (by omega), eq_of_toNat (a := a) (by omega),
    eq_of_toNat (a := b) (by omega), eq_of_toNat (a := c) (by omega), eq_of_toNat (a := d) (by omega)]

theorem consOk_eq_ok {c : Char} {r : Except Failure (List Char)} {cs : List Char} (h : consOk c r = .ok cs) :
    ∃ cs', r = .ok cs' ∧ cs = c :: cs' := by
  cases r with
  | ok cs' => cases h; exact ⟨cs', rfl, rfl⟩
  | error e => cases h

/-- Decoding reads only UTF-8 forms: the characters it returns are written as exactly the bytes it
read. -/
theorem decodeFrom_written {off : Nat} {bs : List UInt8} {cs : List Char} (h : decodeFrom off bs = .ok cs) :
    cs.flatMap String.utf8EncodeChar = bs := by
  fun_induction decodeFrom off bs generalizing cs with
  | case1 => cases h; rfl
  | case2 off a rest ha ih =>
    obtain ⟨cs, hcs, rfl⟩ := consOk_eq_ok h
    rw [List.flatMap_cons, encodeChar_one ha, ih hcs]
    rfl
  | case3 off a b rest ha hb ih =>
    obtain ⟨cs, hcs, rfl⟩ := consOk_eq_ok h
    rw [List.flatMap_cons, encodeChar_two ha hb, ih hcs]
    rfl
  | case7 off a b c rest ha hb hc ih =>
    obtain ⟨cs, hcs, rfl⟩ := consOk_eq_ok h
    simp only [Bool.not_eq_true', Bool.not_eq_false] at hb hc
    rw [List.flatMap_cons, encodeChar_three ha hb hc, ih hcs]
    rfl
  | case13 off a b c d rest ha hb hc hd ih =>
    obtain ⟨cs, hcs, rfl⟩ := consOk_eq_ok h
    simp only [Bool.not_eq_true', Bool.not_eq_false] at hb hc hd
    rw [List.flatMap_cons, encodeChar_four ha hb hc hd, ih hcs]
    rfl
  | _ => cases h

/-- The bytes that decode to a text are its UTF-8 bytes. -/
theorem toUTF8_of_decode {bs : List UInt8} {s : String} (h : decode bs = .ok s) : s.toUTF8.toList = bs := by
  cases hd : decodeFrom 0 bs with
  | error f => simp [decode, hd, Except.map] at h
  | ok cs =>
    simp only [decode, hd, Except.map, Except.ok.injEq] at h
    subst h
    rw [String.toUTF8_eq_toByteArray, ← String.utf8Encode_toList, List.utf8Encode, toList_toByteArray,
      String.toList_ofList, decodeFrom_written hd]

end RoadFetch.Utf8
