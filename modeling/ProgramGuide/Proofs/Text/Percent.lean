import ProgramGuide.Text.Percent

/-!
# Percent-encoded text

Percent-encoded text is read back as it was, whatever characters it has, and it is made
of letters, digits and a few marks, none of which parts an address.
-/

namespace ProgramGuide.Text.Percent

/-! ## Bytes -/

theorem toList_loop (bytes : ByteArray) (i : Nat) (found : List UInt8) :
    ByteArray.toList.loop bytes i found = found.reverse ++ bytes.data.toList.drop i := by
  induction h : bytes.size - i generalizing i found with
  | zero =>
      have hend : bytes.data.toList.length ≤ i := by
        change bytes.size ≤ i
        omega
      rw [ByteArray.toList.loop, if_neg (by omega), List.drop_eq_nil_of_le hend,
        List.append_nil]
  | succ k ih =>
      have hi : i < bytes.size := by omega
      have hlength : i < bytes.data.toList.length := hi
      have hbyte : bytes.get! i = bytes.data.toList[i] := getElem!_pos bytes.data i hi
      rw [ByteArray.toList.loop, if_pos hi, ih _ _ (by omega), List.reverse_cons,
        List.append_assoc, List.drop_eq_getElem_cons hi, hbyte]
      rfl

theorem toList_eq_data (bytes : ByteArray) : bytes.toList = bytes.data.toList :=
  toList_loop bytes 0 []

theorem fromUTF8?_toUTF8 (s : String) :
    String.fromUTF8? s.toUTF8.toList.toByteArray = some s := by
  have hbytes : s.toUTF8.toList.toByteArray = s.toUTF8 := by
    apply ByteArray.ext
    rw [List.data_toByteArray, toList_eq_data]
  rw [hbytes]
  exact dif_pos s.isValidUTF8

theorem toUTF8_singleton (c : Char) :
    (String.singleton c).toUTF8.toList = String.utf8EncodeChar c := by
  rw [toList_eq_data, String.toUTF8_eq_toByteArray, String.toByteArray_singleton,
    List.utf8Encode, List.flatMap_singleton, List.toList_data_toByteArray]

theorem utf8EncodeChar_ascii {c : Char} (h : c.toNat < 128) :
    String.utf8EncodeChar c = [UInt8.ofNat c.toNat] :=
  if_pos (show c.val.toNat ≤ 127 from Nat.le_of_lt_succ h)

theorem toNat_ofNat : ∀ n < 256, (Char.ofNat n).toNat = n := by decide +kernel

/-! ## Escapes -/

def digit (n : Nat) : Char := (Nat.digitChar n).toUpper

theorem hexDigit?_digit : ∀ n < 16, hexDigit? (digit n) = some n := by decide +kernel

theorem isAlphanum_digit : ∀ n < 16, (digit n).isAlphanum = true := by decide +kernel

theorem escape_eq : ∀ n < 256,
    (paddedHex 2 n).map Char.toUpper = [digit (n / 16), digit (n % 16)] := by
  decide +kernel

theorem encodeByte_eq (b : UInt8) :
    encodeByte b =
      if unreserved b then [Char.ofNat b.toNat]
      else ['%', digit (b.toNat / 16), digit (b.toNat % 16)] := by
  rw [encodeByte, escape_eq _ b.toNat_lt]

/-- Letters, digits, four marks and the sign of an escape. -/
def isPlain (c : Char) : Bool :=
  c.isAlphanum || c == '-' || c == '_' || c == '.' || c == '~' || c == '%'

theorem toNat_lt_of_isAlphanum {c : Char} (h : c.isAlphanum = true) : c.toNat < 128 := by
  change (decide ('A'.val ≤ c.val ∧ c.val ≤ 'Z'.val) ||
    decide ('a'.val ≤ c.val) && decide (c.val ≤ 'z'.val) ||
    decide ('0'.val ≤ c.val) && decide (c.val ≤ '9'.val)) = true at h
  simp only [Bool.or_eq_true, Bool.and_eq_true, decide_eq_true_eq, UInt32.le_iff_toNat_le] at h
  obtain (h | h) | h := h <;> exact Nat.lt_of_le_of_lt h.2 (by decide)

theorem toNat_lt_of_isPlain {c : Char} (h : isPlain c = true) : c.toNat < 128 := by
  simp only [isPlain, Bool.or_eq_true, beq_iff_eq] at h
  obtain ((((h | rfl) | rfl) | rfl) | rfl) | rfl := h
  · exact toNat_lt_of_isAlphanum h
  all_goals decide

theorem isPlain_of_unreserved {b : UInt8} (h : unreserved b = true) :
    isPlain (Char.ofNat b.toNat) = true := by
  simp only [unreserved] at h
  simp [isPlain, h]

theorem isPlain_of_mem_encode {s : String} {c : Char} (h : c ∈ (encode s).toList) :
    isPlain c = true := by
  rw [encode, String.toList_ofList] at h
  obtain ⟨b, -, hc⟩ := List.mem_flatMap.mp h
  rw [encodeByte_eq] at hc
  split at hc
  next hunreserved =>
    rw [List.mem_singleton.mp hc]
    exact isPlain_of_unreserved hunreserved
  next =>
    have hbyte := b.toNat_lt
    have hdigit {n : Nat} (hn : n < 16) : isPlain (digit n) = true := by
      simp [isPlain, isAlphanum_digit n hn]
    simp only [List.mem_cons, List.not_mem_nil, or_false] at hc
    obtain rfl | rfl | rfl := hc
    · rfl
    · exact hdigit (by omega)
    · exact hdigit (by omega)

/-! ## Reading back -/

theorem decodeBytes_escape {n : Nat} (h : n < 256) (rest : List Char) :
    decodeBytes ('%' :: digit (n / 16) :: digit (n % 16) :: rest) =
      UInt8.ofNat n :: decodeBytes rest := by
  have hvalue : 16 * (n / 16) + n % 16 = n := Nat.div_add_mod n 16
  rw [decodeBytes, hexDigit?_digit _ (by omega), hexDigit?_digit _ (by omega)]
  dsimp only
  rw [hvalue]

theorem decodeBytes_cons {c : Char} (hc : c ≠ '%') (rest : List Char) :
    decodeBytes (c :: rest) = String.utf8EncodeChar c ++ decodeBytes rest := by
  rw [decodeBytes.eq_3 _ _ (by rintro _ _ _ rfl; exact absurd rfl hc), toUTF8_singleton]

theorem decodeBytes_encodeByte (b : UInt8) (rest : List Char) :
    decodeBytes (encodeByte b ++ rest) = b :: decodeBytes rest := by
  rw [encodeByte_eq]
  split
  next h =>
    have hplain : isPlain (Char.ofNat b.toNat) = true := isPlain_of_unreserved h
    have hpercent : Char.ofNat b.toNat ≠ '%' := by
      intro heq
      simp only [unreserved, heq] at h
      exact absurd h (by decide)
    rw [List.singleton_append, decodeBytes_cons hpercent,
      utf8EncodeChar_ascii (toNat_lt_of_isPlain hplain), toNat_ofNat _ b.toNat_lt,
      UInt8.ofNat_toNat, List.singleton_append]
  next =>
    simp only [List.cons_append, List.nil_append]
    rw [decodeBytes_escape b.toNat_lt, UInt8.ofNat_toNat]

theorem decodeBytes_encode (s : String) :
    decodeBytes (encode s).toList = s.toUTF8.toList := by
  rw [encode, String.toList_ofList]
  induction s.toUTF8.toList with
  | nil => rfl
  | cons b bytes ih => rw [List.flatMap_cons, decodeBytes_encodeByte, ih]

/-- Text without the sign of an escape stands for itself. -/
theorem decode?_of_not_mem {cs : List Char} (h : '%' ∉ cs) :
    decode? cs = some (String.ofList cs) := by
  have hbytes : decodeBytes cs = cs.flatMap String.utf8EncodeChar := by
    induction cs with
    | nil => rfl
    | cons c cs ih =>
        simp only [List.mem_cons, not_or] at h
        rw [decodeBytes_cons (Ne.symm h.1), ih h.2, List.flatMap_cons]
  have htext : (cs.flatMap String.utf8EncodeChar).toByteArray =
      (String.ofList cs).toByteArray := by
    rw [String.toByteArray_ofList, List.utf8Encode]
  rw [decode?, hbytes, htext]
  exact dif_pos (String.ofList cs).isValidUTF8

/-- Whatever is encoded is read back. -/
theorem decode?_encode (s : String) : decode? (encode s).toList = some s := by
  rw [decode?, decodeBytes_encode, fromUTF8?_toUTF8]

end ProgramGuide.Text.Percent
