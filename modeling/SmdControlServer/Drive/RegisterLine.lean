import SmdControlServer.Server.Modbus

/-!
# The register line

`_read_modbus_registers` builds the line for the client with `strncat`s that are
limited by the length of what is already there.  The documented line is
`registerLine`, and `decodeLine` reads the ten words back from it.

The two lines agree as soon as the first strings leave room for the rest.  The
shortest beginning, `,,0x?,`, has six characters, one less than the second field
and its comma can need.
-/

namespace SmdControlServer

open CString Interaction

/-! ## The documented line -/

/-- A register as the line shows it: status words in hexadecimal, the others in
decimal. -/
def registerField (i : Nat) (word : BitVec 16) : Text :=
  if i < 2 then "0x".toList ++ formatHex word.toNat else formatInt word.toInt

/-- Prefix, fields between commas, newline. -/
def registerLine (readType : SmdRegisterReadType) (words : Fin 10 → BitVec 16) : Text :=
  idString readType ++
    [comma].intercalate (List.ofFn fun i => registerField i.val (words i)) ++ ['\n']

/-- The word that a field shows. -/
def decodeField (i : Nat) (field : Text) : BitVec 16 :=
  if i < 2 then
    BitVec.ofNat 16 (hexValue (field.drop 2))
  else
    BitVec.ofInt 16 (strtol field).value

/-- Split the line after its prefix at the commas and decode the fields. -/
def decodeLine (readType : SmdRegisterReadType) (line : Text) : List (BitVec 16) :=
  ((line.drop (idString readType).length).dropLast.splitOn comma).mapIdx decodeField

/-! ## The fields -/

theorem length_hexField (word : BitVec 16) {k : Nat} (hk : 0 < k) :
    ("0x".toList ++ formatHex word.toNat).length ≤ k + 2 ↔ word.toNat < 16 ^ k := by
  rw [← length_formatHex_le_iff hk, List.length_append]
  have hx : "0x".toList.length = 2 := rfl
  omega

theorem natAbs_toInt_lt (word : BitVec 16) : word.toInt.natAbs < 10 ^ 5 := by
  have hlo := word.le_toInt
  have hhi := word.toInt_lt
  norm_num at hlo hhi ⊢
  omega

/-- No field is longer than six characters. -/
theorem length_registerField_le (i : Nat) (word : BitVec 16) :
    (registerField i word).length ≤ 6 := by
  unfold registerField
  split
  · exact (length_hexField word (k := 4) (by omega)).mpr (by simpa using word.isLt)
  · exact length_formatInt_le (by omega) (natAbs_toInt_lt word)

theorem registerText_eq_field (i : Nat) (word : BitVec 16) :
    registerText i word = registerField i word := by
  have hlength := length_registerField_le i word
  unfold registerText registerField at *
  by_cases hi : i < 2
  · rw [if_pos hi] at hlength ⊢
    rw [if_pos (by omega)]
    exact snprintf_eq_self (by omega)
  · rw [if_neg hi] at hlength ⊢
    rw [if_neg (by omega)]
    exact snprintf_eq_self (by omega)

/-- A character that is in no number is in no field. -/
theorem not_mem_registerField {c : Char} (hsign : c ∉ "0x+-".toList)
    (hdigit : c.isDigit = false) (hhex : ∀ d : Fin 16, c ≠ hexDigit d.val) (i : Nat)
    (word : BitVec 16) : c ∉ registerField i word := by
  intro h
  unfold registerField at h
  split at h
  · rcases List.mem_append.mp h with hzero | hdigits
    · exact hsign (List.mem_append_left "+-".toList hzero)
    · obtain ⟨d, hd, heq⟩ := mem_formatHex hdigits
      exact hhex ⟨d, hd⟩ heq
  · rcases (formatInt_denotes word.toInt).chars _ h with hc | rfl | rfl
    · rw [hdigit] at hc
      cases hc
    · exact hsign (by decide)
    · exact hsign (by decide)

theorem comma_not_mem_registerField (i : Nat) (word : BitVec 16) :
    comma ∉ registerField i word :=
  not_mem_registerField (by decide) (by decide) (by decide) i word

theorem space_not_mem_registerField (i : Nat) (word : BitVec 16) :
    ' ' ∉ registerField i word :=
  not_mem_registerField (by decide) (by decide) (by decide) i word

theorem decodeField_registerField (i : Nat) (word : BitVec 16) :
    decodeField i (registerField i word) = word := by
  unfold decodeField registerField
  by_cases hi : i < 2
  · rw [if_pos hi, if_pos hi]
    have hdrop : ("0x".toList ++ formatHex word.toNat).drop 2 = formatHex word.toNat := rfl
    rw [hdrop, hexValue_formatHex, BitVec.ofNat_toNat, BitVec.setWidth_eq]
  · rw [if_neg hi, if_neg hi]
    have hlt := natAbs_toInt_lt word
    rw [strtol_formatInt (by unfold longMin; omega) (by unfold longMax; omega),
      BitVec.ofInt_toInt]

/-- The documented line can be read back. -/
theorem decodeLine_registerLine (readType : SmdRegisterReadType)
    (words : Fin 10 → BitVec 16) :
    decodeLine readType (registerLine readType words) = List.ofFn words := by
  unfold decodeLine registerLine
  rw [List.append_assoc, List.drop_left, List.dropLast_concat,
    List.splitOn_intercalate comma _ (by simp)]
  · apply List.ext_getElem
    · simp
    · intro i hi _
      simp [decodeField_registerField]
  · intro field hfield
    obtain ⟨i, rfl⟩ := List.mem_ofFn.mp hfield
    exact comma_not_mem_registerField i.val (words i)

/-! ## The line that is built -/

/-- What follows a field: a comma, unless the field is the last. -/
def separator (i : Nat) : Text :=
  if i ≠ 9 then [comma] else []

theorem length_registerField_pos (i : Nat) (word : BitVec 16) :
    0 < (registerField i word).length := by
  unfold registerField
  split
  · rw [List.length_append]
    have hpos := length_formatHex_pos word.toNat
    omega
  · exact length_formatInt_pos word.toInt

/-- A later turn of the loop: the field with its separator, as far as the length
of the line allows. -/
theorem appendRegister_of_ne_zero {readType : SmdRegisterReadType} {i : Nat}
    {word : BitVec 16} {line : Text} (hi : i ≠ 0) :
    appendRegister readType 10 i (registerText i word) line =
      strncat line (registerField i word ++ separator i) line.length := by
  have hpos := length_registerField_pos i word
  unfold appendRegister separator
  rw [if_neg hi, registerText_eq_field]
  by_cases hlast : i ≠ 9
  · rw [if_pos hlast, if_pos hlast]
    have hcomma : strncat (registerField i word) ",".toList (registerField i word).length =
        registerField i word ++ [comma] := strncat_eq_append hpos
    rw [hcomma]
  · rw [if_neg hlast, if_neg hlast, List.append_nil]

/-- Behind seven characters there is room for every field with its comma. -/
theorem appendRegister_of_room {readType : SmdRegisterReadType} {i : Nat}
    {word : BitVec 16} {line : Text} (hi : i ≠ 0)
    (hroom : (registerField i word ++ separator i).length ≤ line.length) :
    appendRegister readType 10 i (registerText i word) line =
      line ++ (registerField i word ++ separator i) := by
  rw [appendRegister_of_ne_zero hi, strncat_eq_append hroom]

/-- The fields from some index on, behind seven characters. -/
theorem foldl_appendRegister_of_room (readType : SmdRegisterReadType)
    (words : Fin 10 → BitVec 16) (is : List (Fin 10)) {line : Text}
    (his : ∀ i ∈ is, i ≠ 0) (hroom : 7 ≤ line.length) :
    is.foldl (fun line i =>
        appendRegister readType 10 i.val (registerText i.val (words i)) line) line =
      line ++ is.flatMap fun i => registerField i.val (words i) ++ separator i.val := by
  induction is generalizing line with
  | nil => simp
  | cons i rest ih =>
      have hfield := length_registerField_le i.val (words i)
      have hsep : (separator i.val).length ≤ 1 := by
        unfold separator
        split <;> simp
      have hi : i.val ≠ 0 := fun h => his i (by simp) (Fin.ext h)
      rw [List.foldl_cons, appendRegister_of_room hi (by rw [List.length_append]; omega),
        ih (fun j hj => his j (by simp [hj])) (by rw [List.length_append]; omega),
        List.flatMap_cons, List.append_assoc]

/-- The line after the first turn. -/
def firstField (readType : SmdRegisterReadType) (word : BitVec 16) : Text :=
  idString readType ++ registerField 0 word ++ [comma]

/-- The registers after the first two. -/
def laterFields (words : Fin 10 → BitVec 16) : Text :=
  ([2, 3, 4, 5, 6, 7, 8, 9] : List (Fin 10)).flatMap fun i =>
    registerField i.val (words i) ++ separator i.val

theorem length_idString_le (readType : SmdRegisterReadType) :
    (idString readType).length ≤ 3 := by
  cases readType <;> decide

theorem registerLine_eq (readType : SmdRegisterReadType) (words : Fin 10 → BitVec 16) :
    registerLine readType words =
      firstField readType (words 0) ++ (registerField 1 (words 1) ++ [comma]) ++
        laterFields words ++ ['\n'] := by
  have hfields : (List.ofFn fun i : Fin 10 => registerField i.val (words i)) =
      ([0, 1, 2, 3, 4, 5, 6, 7, 8, 9] : List (Fin 10)).map
        fun i => registerField i.val (words i) := rfl
  have hsep : ∀ i : Fin 10, separator i.val = if i = 9 then [] else [comma] := by
    decide
  unfold registerLine firstField laterFields
  rw [hfields]
  simp [List.intercalate, hsep]

theorem six_le_length_firstField (readType : SmdRegisterReadType) (word : BitVec 16) :
    6 ≤ (firstField readType word).length := by
  have hid : 2 ≤ (idString readType).length := by
    cases readType <;> decide
  have hpos := length_formatHex_pos word.toNat
  have hx : "0x".toList.length = 2 := rfl
  unfold firstField registerField
  simp only [List.length_append, List.length_singleton, Nat.zero_lt_two, if_true]
  omega

/-- The line that is built differs from the documented one in its second field
only, which gets as many characters as the first one has. -/
theorem clientWriteString_eq (readType : SmdRegisterReadType)
    (words : Fin 10 → BitVec 16) :
    clientWriteString readType words =
      firstField readType (words 0) ++
        (registerField 1 (words 1) ++ [comma]).take (firstField readType (words 0)).length ++
          laterFields words ++ ['\n'] := by
  have hindices : List.finRange 10 = 0 :: 1 :: [2, 3, 4, 5, 6, 7, 8, 9] := rfl
  have hfirst : appendRegister readType 10 0 (registerText 0 (words 0)) [] =
      firstField readType (words 0) := by
    have hid := length_idString_le readType
    have hfield := length_registerField_le 0 (words 0)
    unfold appendRegister firstField
    rw [if_pos rfl, registerText_eq_field]
    refine snprintf_eq_self ?_
    simp only [List.length_append]
    have hcomma : ",".toList.length = 1 := rfl
    omega
  -- strncat is bounded by the length of the line, not by the room that is left in it
  have hsecond : appendRegister readType 10 1 (registerText 1 (words 1))
      (firstField readType (words 0)) =
        firstField readType (words 0) ++ (registerField 1 (words 1) ++ [comma]).take
          (firstField readType (words 0)).length := by
    rw [appendRegister_of_ne_zero (by decide)]
    rfl
  -- from the third field on the line is longer than what is appended
  have hlong : 6 ≤ (firstField readType (words 0)).length :=
    six_le_length_firstField readType (words 0)
  have hpos := length_registerField_pos 1 (words 1)
  have hroom : 7 ≤ (firstField readType (words 0) ++
      (registerField 1 (words 1) ++ [comma]).take
        (firstField readType (words 0)).length).length := by
    rw [List.length_append, List.length_take, List.length_append]
    omega
  have hlater := foldl_appendRegister_of_room readType words [2, 3, 4, 5, 6, 7, 8, 9]
    (by decide) hroom
  unfold clientWriteString laterFields
  rw [hindices, List.foldl_cons, List.foldl_cons]
  change (let line := List.foldl _ (appendRegister readType 10 1 (registerText 1 (words 1))
    (appendRegister readType 10 0 (registerText 0 (words 0)) [])) _
    strncat line "\n".toList line.length) = _
  rw [hfirst, hsecond, hlater]
  apply strncat_eq_append
  rw [List.length_append]
  have hnewline : "\n".toList.length = 1 := rfl
  omega

theorem space_not_mem_firstField (readType : SmdRegisterReadType) (word : BitVec 16) :
    ' ' ∉ firstField readType word := by
  have hid : ' ' ∉ idString readType := by
    cases readType <;> decide
  have hfield := space_not_mem_registerField 0 word
  have hcomma : ' ' ∉ [comma] := by decide
  unfold firstField
  simp only [List.mem_append, hid, hfield, hcomma, or_self, not_false_eq_true]

theorem space_not_mem_clientWriteString (readType : SmdRegisterReadType)
    (words : Fin 10 → BitVec 16) : ' ' ∉ clientWriteString readType words := by
  intro h
  rw [clientWriteString_eq] at h
  have hcomma : ' ' ∉ [comma] := by decide
  rcases List.mem_append.mp h with h | hnewline
  · rcases List.mem_append.mp h with h | hlater
    · rcases List.mem_append.mp h with hfirst | hsecond
      · exact space_not_mem_firstField readType (words 0) hfirst
      · rcases List.mem_append.mp (List.mem_of_mem_take hsecond) with hfield | hc
        · exact space_not_mem_registerField 1 (words 1) hfield
        · exact hcomma hc
    · obtain ⟨i, _, hi⟩ := List.mem_flatMap.mp hlater
      rcases List.mem_append.mp hi with hfield | hseparator
      · exact space_not_mem_registerField i.val (words i) hfield
      · unfold separator at hseparator
        split at hseparator
        · exact hcomma hseparator
        · cases hseparator
  · exact absurd hnewline (by decide)

/-- The line of a status read has the tokens that its readers look for. -/
theorem three_le_numberOfTokens_clientWriteString (words : Fin 10 → BitVec 16) :
    3 ≤ numberOfTokens ((clientWriteString .readInputRegisters words).take 128) := by
  have hspace : ' ' ∉ (clientWriteString .readInputRegisters words).take 128 := fun h =>
    space_not_mem_clientWriteString .readInputRegisters words (List.mem_of_mem_take h)
  have hid : idString .readInputRegisters = [comma, comma] := rfl
  unfold numberOfTokens
  rw [if_neg hspace, length_splitOn, clientWriteString_eq]
  unfold firstField
  rw [hid]
  simp only [List.append_assoc, List.cons_append, List.nil_append, List.take_succ_cons,
    List.count_cons_self]
  push_cast
  omega

/-- The second field and its comma fit behind the first. -/
theorem second_field_fits_iff (readType : SmdRegisterReadType)
    (words : Fin 10 → BitVec 16) :
    (registerField 1 (words 1) ++ [comma]).length ≤
        (firstField readType (words 0)).length ↔
      readType = .readConfigRegisters ∨ 16 ≤ (words 0).toNat ∨
        (words 1).toNat < 4096 := by
  have hsecond := length_hexField (words 1) (k := 3) (by omega)
  have hfirst := length_hexField (words 0) (k := 1) (by omega)
  have hfield := length_registerField_le 1 (words 1)
  unfold firstField registerField at *
  simp only [List.length_append, List.length_singleton, Nat.reduceLT, if_true] at *
  have hx : "0x".toList.length = 2 := rfl
  have hpos := length_formatHex_pos (words 0).toNat
  cases readType with
  | readConfigRegisters =>
      have hid : (idString .readConfigRegisters).length = 3 := rfl
      simp only [true_or, iff_true]
      omega
  | readInputRegisters =>
      have hid : (idString .readInputRegisters).length = 2 := rfl
      simp only [reduceCtorEq, false_or]
      omega

/-- The line is the documented one, and decoding it gives the ten words back,
exactly for a configuration read, a status word 0 of two digits or more, or a
status word 1 of three digits or fewer. -/
theorem clientWriteString_eq_registerLine_iff (readType : SmdRegisterReadType)
    (words : Fin 10 → BitVec 16) :
    (clientWriteString readType words = registerLine readType words ∧
        decodeLine readType (clientWriteString readType words) = List.ofFn words) ↔
      readType = .readConfigRegisters ∨ 16 ≤ (words 0).toNat ∨
        (words 1).toNat < 4096 := by
  rw [← second_field_fits_iff]
  constructor
  · rintro ⟨hline, _⟩
    rw [clientWriteString_eq, registerLine_eq] at hline
    have hlength := congrArg List.length hline
    simp only [List.length_append, List.length_take] at hlength
    rw [List.length_append]
    omega
  · intro hfits
    have hline : clientWriteString readType words = registerLine readType words := by
      rw [clientWriteString_eq, registerLine_eq, List.take_of_length_le hfits]
    exact ⟨hline, by rw [hline, decodeLine_registerLine]⟩

/-- The comma between a one-digit and a four-digit status word is lost. -/
theorem comma_lost :
    let words : Fin 10 → BitVec 16 := fun i => if i = 1 then 0x4408 else 0
    clientWriteString .readInputRegisters words = ",,0x0,0x44080,0,0,0,0,0,0,0\n".toList ∧
      clientWriteString .readInputRegisters words ≠
        registerLine .readInputRegisters words ∧
      decodeLine .readInputRegisters (clientWriteString .readInputRegisters words) ≠
        List.ofFn words := by
  decide

end SmdControlServer
