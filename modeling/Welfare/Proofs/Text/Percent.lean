import Mathlib.Data.List.Basic
import Welfare.Text.Percent

/-!
# Encoding a text in a path

Every text can be written as a segment of a path.  Some of its bytes may stand for themselves, and
any of them may be written with a percent sign and two digits; whichever are, the text is decoded
again.

* `percentEncode` — a text, encoded, for any choice of the bytes that stand for themselves.
* `percentDecode_percentEncodeByte` — an encoded byte is decoded, whatever follows.
* `percentDecode?_percentEncode` — an encoded text is decoded.
* `percentEncode_ne_empty`, `isSegmentChar_of_mem_percentEncode` — it may stand in a path.
-/

set_option autoImplicit false

namespace Welfare.Text

/-! ## Bytes of texts -/

theorem byteArray_toList_loop (bs : ByteArray) (i : Nat) (read : List UInt8) :
    ByteArray.toList.loop bs i read = read.reverse ++ bs.data.toList.drop i := by
  induction i, read using ByteArray.toList.loop.induct bs with
  | case1 i read hi ih =>
    have hlength : i < bs.data.toList.length := by simpa using hi
    have hget : bs.get! i = bs.data.toList[i] := by
      show bs.data[i]! = _
      rw [getElem!_pos bs.data i hi, Array.getElem_toList]
    rw [ByteArray.toList.loop.eq_1, if_pos hi, ih, List.drop_eq_getElem_cons hlength, hget]
    simp
  | case2 i read hi =>
    have hlength : bs.data.toList.length ≤ i := by simpa using hi
    rw [ByteArray.toList.loop.eq_1, if_neg hi, List.drop_of_length_le hlength, List.append_nil]

theorem byteArray_toList (bs : ByteArray) : bs.toList = bs.data.toList := by
  rw [ByteArray.toList, byteArray_toList_loop]
  rfl

/-- The bytes of an ASCII text are its characters. -/
theorem toUTF8_ofList {cs : List Char} (h : ∀ c ∈ cs, c.toNat < 128) :
    (String.ofList cs).toUTF8.toList = cs.map Char.toUInt8 := by
  rw [byteArray_toList]
  show cs.utf8Encode.data.toList = _
  rw [List.utf8Encode, List.toList_data_toByteArray]
  induction cs with
  | nil => rfl
  | cons c cs ih =>
    have hsize : c.utf8Size = 1 := by
      have hc : c.val ≤ 127 := by
        have := h c List.mem_cons_self
        exact UInt32.le_iff_toNat_le.2 (by simp; omega)
      exact if_pos hc
    rw [List.flatMap_cons, String.utf8EncodeChar_eq_singleton hsize,
      ih fun d hd ↦ h d (List.mem_cons_of_mem c hd)]
    rfl

/-- A text is found in its bytes. -/
theorem fromUTF8?_toList_toUTF8 (s : String) :
    String.fromUTF8? ⟨s.toUTF8.toList.toArray⟩ = some s := by
  have hbytes : (⟨s.toUTF8.toList.toArray⟩ : ByteArray) = s.toByteArray := by
    rw [byteArray_toList]
    rfl
  rw [hbytes]
  exact dif_pos s.isValidUTF8

/-! ## Encoding -/

/-- The printed characters of ASCII, without those that end a segment of a path. -/
def isSegmentChar (c : Char) : Bool :=
  32 < c.toNat && c.toNat < 127 && c != '/' && c != '?' && c != '#'

/-- The hexadecimal digit of a value below sixteen. -/
def hexChar (n : Nat) : Char :=
  Char.ofNat (if n < 10 then 48 + n else 55 + n)

/-- A byte as two digits, or as it is, where that is possible and wanted. -/
def percentEncodeByte (plain : UInt8 → Bool) (b : UInt8) : List Char :=
  if plain b && isSegmentChar (Char.ofUInt8 b) && b != 37 then [Char.ofUInt8 b]
  else ['%', hexChar (b.toNat / 16), hexChar (b.toNat % 16)]

/-- A text as a segment of a path. -/
def percentEncode (plain : UInt8 → Bool) (s : String) : String :=
  String.ofList (s.toUTF8.toList.flatMap (percentEncodeByte plain))

variable {plain : UInt8 → Bool} {b : UInt8} {n : Nat} {c : Char}

theorem isSegmentChar_hexChar : ∀ n < 16, isSegmentChar (hexChar n) = true := by decide

theorem hexDigit?_hexChar : ∀ n < 16, hexDigit? (hexChar n) = some n := by decide

theorem ofUInt8_toUInt8_hexChar : ∀ n < 16, Char.ofUInt8 (hexChar n).toUInt8 = hexChar n := by
  decide

theorem toUInt8_ofUInt8 (b : UInt8) : (Char.ofUInt8 b).toUInt8 = b := by
  show b.toUInt32.toUInt8 = b
  simp

theorem isSegmentChar_of_mem_percentEncodeByte (h : c ∈ percentEncodeByte plain b) :
    isSegmentChar c = true := by
  have hb : b.toNat < 256 := b.toNat_lt
  unfold percentEncodeByte at h
  split at h
  · next hplain =>
    rw [List.mem_singleton] at h
    simp only [Bool.and_eq_true] at hplain
    rw [h, hplain.1.2]
  · simp only [List.mem_cons, List.not_mem_nil, or_false] at h
    rcases h with rfl | rfl | rfl
    · decide
    · exact isSegmentChar_hexChar _ (by omega)
    · exact isSegmentChar_hexChar _ (by omega)

/-! ## Decoding what is encoded -/

theorem percentDecode_of_ne (hb : b ≠ 37) (rest : List UInt8) :
    percentDecode (b :: rest) = b :: percentDecode rest := by
  rw [percentDecode]
  simp [hb]

/-- Two digits are decoded to their byte. -/
theorem percentDecode_digits (b : UInt8) (rest : List UInt8) :
    percentDecode (37 :: (hexChar (b.toNat / 16)).toUInt8 :: (hexChar (b.toNat % 16)).toUInt8 ::
      rest) = b :: percentDecode rest := by
  have hb : b.toNat < 256 := b.toNat_lt
  have hvalue : hexValue? [hexChar (b.toNat / 16), hexChar (b.toNat % 16)] = some b.toNat := by
    have hsum : 16 * (b.toNat / 16) + b.toNat % 16 = b.toNat := by omega
    simp [hexValue?, hexDigit?_hexChar _ (show b.toNat / 16 < 16 by omega),
      hexDigit?_hexChar _ (show b.toNat % 16 < 16 by omega), hsum]
  rw [percentDecode, ofUInt8_toUInt8_hexChar _ (by omega), ofUInt8_toUInt8_hexChar _ (by omega),
    hvalue]
  simp

/-- An encoded byte is decoded, whatever follows. -/
theorem percentDecode_percentEncodeByte (plain : UInt8 → Bool) (b : UInt8) (rest : List UInt8) :
    percentDecode ((percentEncodeByte plain b).map Char.toUInt8 ++ rest) =
      b :: percentDecode rest := by
  unfold percentEncodeByte
  split
  · next hplain =>
    -- No percent sign stands for itself, so the byte does not open two digits that follow.
    have hb : b ≠ 37 := by
      simp only [Bool.and_eq_true, bne_iff_ne] at hplain
      exact hplain.2
    show percentDecode ((Char.ofUInt8 b).toUInt8 :: rest) = _
    rw [toUInt8_ofUInt8, percentDecode_of_ne hb]
  · exact percentDecode_digits b rest

theorem percentDecode_flatMap (plain : UInt8 → Bool) (bs : List UInt8) :
    percentDecode ((bs.flatMap (percentEncodeByte plain)).map Char.toUInt8) = bs := by
  induction bs with
  | nil => rfl
  | cons b bs ih =>
    rw [List.flatMap_cons, List.map_append, percentDecode_percentEncodeByte, ih]

/-! ## Texts -/

variable (plain) (s : String)

theorem isSegmentChar_of_mem_percentEncode (h : c ∈ (percentEncode plain s).toList) :
    isSegmentChar c = true := by
  rw [percentEncode, String.toList_ofList] at h
  obtain ⟨b, -, hc⟩ := List.mem_flatMap.1 h
  exact isSegmentChar_of_mem_percentEncodeByte hc

/-- An encoded text is decoded, whichever of its bytes stand for themselves. -/
theorem percentDecode?_percentEncode : percentDecode? (percentEncode plain s) = some s := by
  have hascii : ∀ c ∈ s.toUTF8.toList.flatMap (percentEncodeByte plain), c.toNat < 128 := by
    intro c hc
    obtain ⟨b, -, hb⟩ := List.mem_flatMap.1 hc
    have hchar := isSegmentChar_of_mem_percentEncodeByte hb
    simp only [isSegmentChar, Bool.and_eq_true, decide_eq_true_eq] at hchar
    omega
  rw [percentDecode?, percentEncode, toUTF8_ofList hascii, percentDecode_flatMap]
  exact fromUTF8?_toList_toUTF8 s

/-- Only of the empty text nothing is left. -/
theorem percentEncode_ne_empty (h : s ≠ "") : percentEncode plain s ≠ "" := by
  have hbytes : "".toUTF8.toList = [] := toUTF8_ofList nofun
  have hnothing : percentDecode? "" = some "" := by
    rw [percentDecode?, hbytes, percentDecode, ← hbytes]
    exact fromUTF8?_toList_toUTF8 ""
  intro hempty
  have hdecode := percentDecode?_percentEncode plain s
  rw [hempty, hnothing] at hdecode
  exact h (Option.some.inj hdecode).symm

end Welfare.Text
