import SmdControlServer.Server.Requests

/-!
# `SMD_Utilities.c`
-/

namespace SmdControlServer

open CString Interaction

/-- `convert_string_to_long_int`.  `errno` is looked at but never cleared, unless the
`perror` of a failure replaces it. -/
def convertStringToLongInt (str : Text) : Server Int := do
  let result := strtol str
  if result.erange then
    setErrno erange
  let stillErange ← errnoIsErange
  if !result.consumed || stillErange then do
    perror
    pure (-1)
  else
    pure (toInt32 result.value)

/-- `struct Words`. -/
structure Words where
  lowerWord : Int
  upperWord : Int
  deriving DecidableEq, Repr

/-- The words of `convert_int_to_words` before they are narrowed, lower first. -/
def splitIntoWords (number : Int) : Int × Int :=
  let posLw := if (number.tdiv 1000).natAbs > 0 then
      ((number.tmod 1000).natAbs : Int)
    else
      (number.natAbs : Int)
  let posUw := if (number.tdiv 1000).natAbs > 0 then
      ((number - number.tmod 1000).natAbs : Int).tdiv 1000
    else
      0
  if number < 0 then (posLw * -1, posUw * -1) else (posLw, posUw)

/-- `convert_int_to_words`. -/
def convertIntToWords (number : Int) : Words where
  lowerWord := toInt16 (splitIntoWords number).1
  upperWord := toInt16 (splitIntoWords number).2

/-- The separator of the client's commands. -/
def comma : Char := ','

/-- `number_of_tokens`.  The loop counts one token for each field. -/
def numberOfTokens (commandString : Text) : Int :=
  if ' ' ∈ commandString then
    -1
  else
    (commandString.splitOn comma).length

/-- What `tokenize_client_input` leaves behind: the tokens it stored, from index
0 on, and what it returned. -/
structure Tokenized where
  stored : List Text
  result : Int
  deriving DecidableEq

/-- `tokenize_client_input`.  The size is only compared after all tokens have
been stored. -/
def tokenizeClientInput (input : Text) (arrayOfCommandsSize : Nat) : Tokenized where
  stored := input.splitOn comma
  result := if (input.splitOn comma).length > arrayOfCommandsSize then -1 else 0

/-- `array_of_commands[i]`. -/
def Tokenized.token (t : Tokenized) (i : Nat) : Text :=
  t.stored.getD i []

/-- The four characters that `hex_string_to_bin_string` appends for a digit. -/
def hexDigitBits : Char → Option Text
  | '0' => some "0000".toList
  | '1' => some "0001".toList
  | '2' => some "0010".toList
  | '3' => some "0011".toList
  | '4' => some "0100".toList
  | '5' => some "0101".toList
  | '6' => some "0110".toList
  | '7' => some "0111".toList
  | '8' => some "1000".toList
  | '9' => some "1001".toList
  | 'A' => some "1010".toList
  | 'B' => some "1011".toList
  | 'C' => some "1100".toList
  | 'D' => some "1101".toList
  | 'E' => some "1110".toList
  | 'F' => some "1111".toList
  | _ => none

/-- The loop of `hex_string_to_bin_string` from one character on, with
`temp_idx_counter` and `return_string` so far.  The length is checked before the
bits are appended, and a bad character or a full buffer leaves what has been
appended.  Where the addition overflows the `int`, there is no result. -/
def hexStringLoopInt (bufSize : Nat) : Text → Int → Text → Option (Int × Text)
  | [], _, returnString => some (0, returnString)
  | c :: rest, tempIdxCounter, returnString =>
      match hexDigitBits c with
      | none => some (-1, returnString)
      | some bits =>
          if tempIdxCounter + 4 > 2147483647 then
            none
          else if tempIdxCounter + 4 > bufSize then
            some (-1, returnString)
          else
            hexStringLoopInt bufSize rest (tempIdxCounter + 4)
              (strncat returnString bits bufSize)

/-- The loop with a counter that does not overflow.  For a buffer of less than
2147483644 characters it is the loop of the code, by `hexStringLoopInt_eq`. -/
def hexStringLoop (bufSize : Nat) : Text → Nat → Text → Int × Text
  | [], _, returnString => (0, returnString)
  | c :: rest, tempIdxCounter, returnString =>
      match hexDigitBits c with
      | none => (-1, returnString)
      | some bits =>
          if tempIdxCounter + 4 > bufSize then
            (-1, returnString)
          else
            hexStringLoop bufSize rest (tempIdxCounter + 4)
              (strncat returnString bits bufSize)

/-- The input without a leading `0x`. -/
def skipHexPrefix : Text → Text
  | '0' :: 'x' :: rest => rest
  | input => input

/-- `hex_string_to_bin_string`: what it returns and `return_string` after it. -/
def hexStringToBinStringInt (returnString : Text) (bufSize : Nat) (input : Text) :
    Option (Int × Text) :=
  if input.length = 0 then
    some (-1, returnString)
  else
    hexStringLoopInt bufSize (skipHexPrefix input) 0 returnString

/-- `hex_string_to_bin_string` with a counter that does not overflow, as in its calls, which
have buffers of 16 and of 17 characters. -/
def hexStringToBinString (returnString : Text) (bufSize : Nat) (input : Text) :
    Int × Text :=
  if input.length = 0 then
    (-1, returnString)
  else
    hexStringLoop bufSize (skipHexPrefix input) 0 returnString

end SmdControlServer
