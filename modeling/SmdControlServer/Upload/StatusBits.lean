import SmdControlServer.Commands.Errands
import SmdControlServer.Text.Binary

/-!
# The bits of the status word

The drive's status word is printed without leading zeros, written out in binary with four
digits for each hexadecimal one, and looked at from the left.  The seventh character is
bit 9 of a word of four hexadecimal digits, and another bit of a shorter one.  The two
places that look at it, the program of the first block and the upload, look at it in the
line and in the register strings, which show the word alike.
-/

namespace SmdControlServer

open CString Interaction

/-! ## From the word to the binary text -/

theorem hexDigitBits_hexDigit {d : Nat} (hd : d < 16) :
    hexDigitBits (hexDigit d) = some (binaryText d 4) := by
  have h : ∀ d : Fin 16, hexDigitBits (hexDigit d.val) = some (binaryText d.val 4) := by
    decide
  exact h ⟨d, hd⟩

/-- What the loop appends for a digit. -/
def digitBits (c : Char) : Text :=
  (hexDigitBits c).getD []

/-- As long as there is room, the loop writes out the digits one after the other. -/
theorem hexStringLoop_eq {bufSize : Nat} {s : Text}
    (hs : ∀ c ∈ s, ∃ d, d < 16 ∧ c = hexDigit d) {i : Nat}
    (hroom : i + 4 * s.length ≤ bufSize) (returnString : Text) :
    hexStringLoop bufSize s i returnString = (0, returnString ++ s.flatMap digitBits) := by
  induction s generalizing i returnString with
  | nil => rw [hexStringLoop, List.flatMap_nil, List.append_nil]
  | cons c rest ih =>
      obtain ⟨d, hd, rfl⟩ := hs c (by simp)
      have hbits := hexDigitBits_hexDigit hd
      rw [List.length_cons] at hroom
      have hlength : (binaryText d 4).length ≤ bufSize := by
        rw [length_binaryText]
        omega
      rw [hexStringLoop, hbits]
      dsimp only
      rw [if_neg (by omega), ih (fun c hc => hs c (List.mem_cons_of_mem _ hc)) (by omega),
        strncat_eq_append hlength, List.flatMap_cons, digitBits, hbits, Option.getD_some,
        List.append_assoc]

/-- How many hexadecimal digits a word is printed with. -/
def hexDigits (word : BitVec 16) : Nat :=
  (formatHex word.toNat).length

theorem hexDigits_pos (word : BitVec 16) : 0 < hexDigits word :=
  length_formatHex_pos word.toNat

theorem hexDigits_le_iff (word : BitVec 16) {k : Nat} (hk : 0 < k) :
    hexDigits word ≤ k ↔ word.toNat < 16 ^ k :=
  length_formatHex_le_iff hk

theorem hexDigits_le_four (word : BitVec 16) : hexDigits word ≤ 4 :=
  (hexDigits_le_iff word (by decide)).mpr word.isLt

/-- The conversion of a status word: its lowest bits, four for each digit that is
printed. -/
theorem hexStringToBinString_registerText {bufSize : Nat} (hsize : 16 ≤ bufSize)
    (word : BitVec 16) :
    hexStringToBinString [] bufSize (registerText 0 word) =
      (0, binaryText word.toNat (4 * hexDigits word)) := by
  have htext : registerText 0 word = '0' :: 'x' :: formatHex word.toNat := by
    rw [registerText_eq_field]
    rfl
  have hfour : 4 * (formatHex word.toNat).length ≤ 16 := by
    have hle : hexDigits word ≤ 4 := hexDigits_le_four word
    unfold hexDigits at hle
    omega
  have hbits : (formatHex word.toNat).flatMap digitBits =
      binaryText word.toNat (4 * (formatHex word.toNat).length) := by
    refine flatMap_formatHex (fun d hd => ?_) word.toNat
    rw [digitBits, hexDigitBits_hexDigit hd, Option.getD_some]
  unfold hexStringToBinString
  rw [htext, if_neg (by simp)]
  show hexStringLoop bufSize (formatHex word.toNat) 0 [] = _
  rw [hexStringLoop_eq (fun c hc => mem_formatHex hc) (by omega), hbits]
  rfl

/-- The `j`-th character of the binary text. -/
def shownBit (word : BitVec 16) (j : Nat) : Option Char :=
  if j < 4 * hexDigits word then
    some (bitChar (word.getLsbD (4 * hexDigits word - 1 - j)))
  else
    none

theorem getElem?_binaryText_word (word : BitVec 16) (j : Nat) :
    (binaryText word.toNat (4 * hexDigits word))[j]? = shownBit word j := by
  unfold shownBit
  by_cases hj : j < 4 * hexDigits word
  · rw [if_pos hj, getElem?_binaryText word.toNat hj]
    rfl
  · rw [if_neg hj, List.getElem?_eq_none]
    rw [length_binaryText]
    omega

theorem statusBit_registerText (word : BitVec 16) :
    statusBit (registerText 0 word) = shownBit word 6 := by
  unfold statusBit
  rw [hexStringToBinString_registerText (by decide), getElem?_binaryText_word]

/-! ## The two readers -/

/-- The third token of the register line is the status word. -/
theorem exists_splitOn_clientWriteString (words : Fin 10 → BitVec 16) :
    ∃ rest : Text, ((clientWriteString .readInputRegisters words).take 128).splitOn comma =
      [] :: [] :: registerText 0 (words 0) :: rest.splitOn comma := by
  have hline : ∃ rest : Text, clientWriteString .readInputRegisters words =
      comma :: comma :: (registerField 0 (words 0) ++ comma :: rest) := by
    refine ⟨(registerField 1 (words 1) ++ [comma]).take
      (firstField .readInputRegisters (words 0)).length ++ laterFields words ++ ['\n'], ?_⟩
    rw [clientWriteString_eq]
    have hid : idString .readInputRegisters = [comma, comma] := rfl
    unfold firstField
    rw [hid]
    simp only [List.append_assoc, List.cons_append, List.nil_append]
  obtain ⟨rest, hline⟩ := hline
  -- the 128 characters that are copied go beyond the third token
  have hlength := length_registerField_le 0 (words 0)
  refine ⟨rest.take (125 - (registerField 0 (words 0)).length), ?_⟩
  have htake : (clientWriteString .readInputRegisters words).take 128 =
      comma :: comma :: (registerField 0 (words 0) ++
        comma :: rest.take (125 - (registerField 0 (words 0)).length)) := by
    rw [hline, List.take_succ_cons, List.take_succ_cons, List.take_append,
      List.take_of_length_le (by omega),
      show 126 - (registerField 0 (words 0)).length =
        (125 - (registerField 0 (words 0)).length) + 1 by omega, List.take_succ_cons]
  rw [htake, registerText_eq_field, List.splitOn_cons_eq_if_modifyHead, if_pos (by decide),
    List.splitOn_cons_eq_if_modifyHead, if_pos (by decide),
    List.splitOn_append_cons_self_of_not_mem (comma_not_mem_registerField 0 (words 0))]

/-- The first block is taken where the seventh and eighth characters say so. -/
def firstBlockTaken (word : BitVec 16) : Prop :=
  shownBit word 6 = some '1' ∧ shownBit word 7 = some '1'

instance (word : BitVec 16) : Decidable (firstBlockTaken word) :=
  inferInstanceAs (Decidable (_ ∧ _))

theorem checkStatus_clientWriteString (words : Fin 10 → BitVec 16) :
    checkStatus ((clientWriteString .readInputRegisters words).take 128) =
      pure (if firstBlockTaken (words 0) then .commandSuccess else .commandFailed) := by
  obtain ⟨rest, hsplit⟩ := exists_splitOn_clientWriteString words
  have hspace : ' ' ∉ (clientWriteString .readInputRegisters words).take 128 := fun h =>
    space_not_mem_clientWriteString .readInputRegisters words (List.mem_of_mem_take h)
  have hnumber : numberOfTokens ((clientWriteString .readInputRegisters words).take 128) =
      (rest.splitOn comma).length + 3 := by
    unfold numberOfTokens
    rw [if_neg hspace, hsplit]
    simp only [List.length_cons]
    push_cast
    omega
  have hsize : ((rest.splitOn comma).length + 3 : Int).toNat =
      (rest.splitOn comma).length + 3 := by omega
  have htokens : tokenizeClientInput ((clientWriteString .readInputRegisters words).take 128)
      ((rest.splitOn comma).length + 3) =
        ⟨[] :: [] :: registerText 0 (words 0) :: rest.splitOn comma, 0⟩ := by
    unfold tokenizeClientInput
    rw [hsplit, if_neg (by simp only [List.length_cons]; omega)]
  have hbits : hexStringToBinString [] 16 (registerText 0 (words 0)) = _ :=
    hexStringToBinString_registerText (Nat.le_refl 16) (words 0)
  have htoken : (⟨[] :: [] :: registerText 0 (words 0) :: rest.splitOn comma, 0⟩ :
      Tokenized).token 2 = registerText 0 (words 0) := rfl
  unfold checkStatus
  rw [hnumber, if_neg (by omega), hsize, htokens]
  dsimp only
  rw [if_neg (by decide), htoken, hbits]
  simp only [getElem?_binaryText_word, true_and]
  by_cases htaken : firstBlockTaken (words 0)
  · exact (if_pos htaken).trans (congrArg pure (if_pos htaken).symm)
  · exact (if_neg htaken).trans (congrArg pure (if_neg htaken).symm)

/-- With the program sent and the registers read, the first block returns a success where
the two characters say so. -/
theorem runs_firstBlock_iff {w w' : World} {words : Fin 10 → BitVec 16} {r : SmdResponseCode}
    (hsent : w.opens) (hread : w.afterFirstBlock.readWords = some words) :
    Runs server smdProgramBlockFirstBlock w r w' ↔
      r = (if firstBlockTaken (words 0) then .commandSuccess else .commandFailed) ∧
        w' = w.afterFirstBlock.afterRead .readInputRegisters := by
  have hopens : w.afterFirstBlock.takeMemory.opens := by
    by_contra hopens
    rw [World.readWords, if_neg hopens] at hread
    cases hread
  have hregisters : w.afterFirstBlock.drive.head.registers = some words := by
    rwa [World.readWords, if_pos hopens] at hread
  rw [runs_smdProgramBlockFirstBlock_iff hsent]
  dsimp only
  rw [if_neg (fun hfailed => readReply_failed_iff.mp hfailed hopens),
    readReply_registersString hopens, hregisters]
  dsimp only
  rw [checkStatus_clientWriteString]
  exact runs_done_iff

/-! ## The bits that are meant -/

/-- Whenever the program was sent and the registers were read, the first block returns a
success if and only if bits 9 and 8 of the status word are set. -/
def FirstBlockTestsBits (words : Fin 10 → BitVec 16) : Prop :=
  ∀ w : World, w.opens → w.afterFirstBlock.readWords = some words →
    ((∃ w', Runs server smdProgramBlockFirstBlock w .commandSuccess w') ↔
      (words 0).getLsbD 9 = true ∧ (words 0).getLsbD 8 = true)

/-- Whenever the registers were read for the upload, the character that it looks at is
bit 9 of the status word. -/
def UploadTestsBit (words : Fin 10 → BitVec 16) : Prop :=
  ∀ (w : World) (registers : RegisterStrings) (line : Text) (reply : RegistersReply)
    (w' : World), w.readWords = some words →
      Runs server (returnModbusRegisters registers 10 .readInputRegisters (-1) (some line) 128)
        w reply w' →
      statusBit (reply.registers 0) = some (bitChar ((words 0).getLsbD 9))

/-- A world whose next two sessions do what they are asked and read these registers. -/
def World.showing (words : Fin 10 → BitVec 16) : World :=
  World.facing (Globals.connectedTo "10.0.0.5".toList)
    (Stream'.const (Session.answering words))

theorem World.showing_opens (words : Fin 10 → BitVec 16) : (World.showing words).opens :=
  ⟨rfl, (by decide : "10.0.0.5".toList ≠ []), rfl⟩

theorem World.showing_readWords (words : Fin 10 → BitVec 16) :
    (World.showing words).readWords = some words := rfl

theorem World.showing_afterFirstBlock_readWords (words : Fin 10 → BitVec 16) :
    (World.showing words).afterFirstBlock.readWords = some words := rfl

theorem firstBlockTestsBits_iff {words : Fin 10 → BitVec 16} :
    FirstBlockTestsBits words ↔ (firstBlockTaken (words 0) ↔
      (words 0).getLsbD 9 = true ∧ (words 0).getLsbD 8 = true) := by
  have hsuccess : ∀ {w : World}, w.opens → w.afterFirstBlock.readWords = some words →
      ((∃ w', Runs server smdProgramBlockFirstBlock w .commandSuccess w') ↔
        firstBlockTaken (words 0)) := by
    intro w hsent hread
    simp only [runs_firstBlock_iff hsent hread, exists_and_left, exists_eq, and_true]
    by_cases htaken : firstBlockTaken (words 0)
    · simp [htaken]
    · simp [htaken]
  constructor
  · intro h
    rw [← hsuccess (World.showing_opens words) (World.showing_afterFirstBlock_readWords words)]
    exact h _ (World.showing_opens words) (World.showing_afterFirstBlock_readWords words)
  · intro h w hsent hread
    rw [hsuccess hsent hread]
    exact h

theorem uploadTestsBit_iff {words : Fin 10 → BitVec 16} :
    UploadTestsBit words ↔
      shownBit (words 0) 6 = some (bitChar ((words 0).getLsbD 9)) := by
  rw [← statusBit_registerText]
  constructor
  · intro h
    have hbit := h (World.showing words) (fun _ => []) [] _ _ (World.showing_readWords words)
      (runs_returnModbusRegisters_iff.mpr ⟨rfl, rfl⟩)
    rwa [readReply_registers (World.showing_readWords words)] at hbit
  · intro h w registers line reply w' hread hrun
    obtain ⟨rfl, _⟩ := runs_returnModbusRegisters_iff.mp hrun
    rw [readReply_registers hread]
    exact h

/-- The word has four hexadecimal digits, or it has three and the bits that stand in the
places of bits 9 and 8 give the same result, or it has two and the one that stands in the
place of bit 9 is clear. -/
def ShowsBits (word : BitVec 16) : Prop :=
  4096 ≤ word.toNat ∨
    (256 ≤ word.toNat ∧ word.toNat < 4096 ∧ word.getLsbD 5 = word.getLsbD 9 ∧
      (word.getLsbD 5 && word.getLsbD 4) = (word.getLsbD 9 && word.getLsbD 8)) ∨
    (16 ≤ word.toNat ∧ word.toNat < 256 ∧ word.getLsbD 1 = false)

theorem getLsbD_eq_false_of_lt {word : BitVec 16} {i : Nat} (h : word.toNat < 2 ^ i) :
    word.getLsbD i = false :=
  Nat.testBit_lt_two_pow h

theorem shownBit_eq_some_iff {word : BitVec 16} {j : Nat} {b : Bool} :
    shownBit word j = some (bitChar b) ↔
      j < 4 * hexDigits word ∧ word.getLsbD (4 * hexDigits word - 1 - j) = b := by
  unfold shownBit
  split
  · rename_i hj
    rw [Option.some.injEq, and_iff_right hj]
    exact ⟨bitChar_injective, congrArg bitChar⟩
  · rename_i hj
    exact iff_of_false (by simp) fun h => hj h.1

theorem firstBlockTaken_iff {word : BitVec 16} :
    firstBlockTaken word ↔ 2 ≤ hexDigits word ∧
      word.getLsbD (4 * hexDigits word - 7) = true ∧
        word.getLsbD (4 * hexDigits word - 8) = true := by
  have hone : some '1' = some (bitChar true) := rfl
  unfold firstBlockTaken
  rw [hone, shownBit_eq_some_iff, shownBit_eq_some_iff, Nat.sub_sub, Nat.sub_sub]
  constructor
  · rintro ⟨⟨_, hsix⟩, hroom, hseven⟩
    exact ⟨by omega, hsix, hseven⟩
  · rintro ⟨hroom, hsix, hseven⟩
    exact ⟨⟨by omega, hsix⟩, by omega, hseven⟩

/-- The code tests the bits that it means of the words that show them at their places. -/
theorem status_bits_tested_iff (words : Fin 10 → BitVec 16) :
    FirstBlockTestsBits words ∧ UploadTestsBit words ↔ ShowsBits (words 0) := by
  rw [firstBlockTestsBits_iff, uploadTestsBit_iff, firstBlockTaken_iff, shownBit_eq_some_iff,
    Nat.sub_sub]
  generalize words 0 = word
  have hpos := hexDigits_pos word
  have hfour := hexDigits_le_four word
  have hone : hexDigits word ≤ 1 ↔ word.toNat < 16 := hexDigits_le_iff word (by decide)
  have htwo : hexDigits word ≤ 2 ↔ word.toNat < 256 := hexDigits_le_iff word (by decide)
  have hthree : hexDigits word ≤ 3 ↔ word.toNat < 4096 := hexDigits_le_iff word (by decide)
  have hcases : hexDigits word = 1 ∨ hexDigits word = 2 ∨ hexDigits word = 3 ∨
      hexDigits word = 4 := by omega
  unfold ShowsBits
  rcases hcases with hk | hk | hk | hk
  · -- the text has four characters
    rw [hk]
    have hsmall := hone.mp (Nat.le_of_eq hk)
    refine iff_of_false (fun h => absurd h.2.1 (by decide)) ?_
    omega
  · rw [hk]
    have hsmall := htwo.mp (Nat.le_of_eq hk)
    have hlarge : 16 ≤ word.toNat := by omega
    have hnine : word.getLsbD 9 = false :=
      getLsbD_eq_false_of_lt (hsmall.trans (by decide))
    have hthreeDigits : ¬ 256 ≤ word.toNat := by omega
    have hfourDigits : ¬ 4096 ≤ word.toNat := by omega
    simp only [hnine, hsmall, hlarge, hthreeDigits, hfourDigits]
    cases word.getLsbD 1 <;> simp
  · rw [hk]
    have hsmall := hthree.mp (Nat.le_of_eq hk)
    have hlarge : 256 ≤ word.toNat := by omega
    have htwoDigits : ¬ word.toNat < 256 := by omega
    have hfourDigits : ¬ 4096 ≤ word.toNat := by omega
    simp only [hsmall, hlarge, htwoDigits, hfourDigits]
    cases word.getLsbD 5 <;> cases word.getLsbD 4 <;> cases word.getLsbD 9 <;>
      cases word.getLsbD 8 <;> simp
  · -- the bits stand where they are looked for
    rw [hk]
    have hlarge : 4096 ≤ word.toNat := by omega
    simp [hlarge]

/-- A word with bits 9 and 8 set, and no others, is taken for one without them. -/
theorem short_status_word_misread :
    let words : Fin 10 → BitVec 16 := fun _ => 0x300
    (words 0).getLsbD 9 = true ∧ (words 0).getLsbD 8 = true ∧
      (World.showing words).opens ∧
      (World.showing words).afterFirstBlock.readWords = some words ∧
      (∃ w', Runs server smdProgramBlockFirstBlock (World.showing words) .commandFailed w') ∧
      statusBit (registerText 0 (words 0)) = some '0' ∧
      ¬ (FirstBlockTestsBits words ∧ UploadTestsBit words) := by
  intro words
  have hopens := World.showing_opens words
  have hread := World.showing_afterFirstBlock_readWords words
  have hnot : ¬ firstBlockTaken (words 0) := by decide
  have hfailed : ∃ w', Runs server smdProgramBlockFirstBlock (World.showing words)
      .commandFailed w' := by
    simp only [runs_firstBlock_iff hopens hread, if_neg hnot, true_and]
    exact ⟨_, rfl⟩
  refine ⟨by decide, by decide, hopens, hread, hfailed, by decide, ?_⟩
  rintro ⟨hfirst, _⟩
  exact hnot ((firstBlockTestsBits_iff.mp hfirst).mpr ⟨by decide, by decide⟩)

end SmdControlServer
