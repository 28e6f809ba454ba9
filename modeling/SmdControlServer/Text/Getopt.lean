import SmdControlServer.Text.CString

/-!
# `getopt`

The short options of a command line.  The successive calls of `getopt` go over the arguments
and give one option each.  Arguments that are no options are passed over, options without an
argument can share one word, and an option with an argument takes the rest of its word or,
if there is none, the next word, whatever that is.
-/

namespace CString

/-- Whether a character is an option, and one with an argument. -/
def takesArgument (optstring : Text) (c : Char) : Option Bool :=
  if c = ':' then
    none
  else
    match optstring.dropWhile (· != c) with
    | [] => none
    | _ :: ':' :: _ => some true
    | _ => some false

/-- The options in what is left of a word, and the last one if it has to take its argument
from the next word.  A character that is no option is reported as a question mark. -/
def wordOptions (optstring : Text) : Text → List (Char × Text) × Option Char
  | [] => ([], none)
  | c :: rest =>
      match takesArgument optstring c with
      | none => (('?', []) :: (wordOptions optstring rest).1, (wordOptions optstring rest).2)
      | some false => ((c, []) :: (wordOptions optstring rest).1, (wordOptions optstring rest).2)
      | some true => if rest = [] then ([], some c) else ([(c, rest)], none)

/-- The options that the calls of `getopt` return for the words behind the program's name,
up to the call that returns -1, each with its `optarg`. -/
def getopt (optstring : Text) : List Text → List (Char × Text)
  | [] => []
  | word :: rest =>
      match word with
      | ['-', '-'] => []
      | '-' :: c :: chars =>
          match wordOptions optstring (c :: chars) with
          | (options, none) => options ++ getopt optstring rest
          | (options, some pending) =>
              match rest with
              | [] => options ++ [('?', [])]
              | optarg :: rest => options ++ (pending, optarg) :: getopt optstring rest
      | _ => getopt optstring rest

/-- A word that begins with an option. -/
theorem getopt_word {optstring chars : Text} {c : Char} (hc : c ≠ '-') (rest : List Text) :
    getopt optstring (('-' :: c :: chars) :: rest) =
      match wordOptions optstring (c :: chars) with
      | (options, none) => options ++ getopt optstring rest
      | (options, some pending) =>
          match rest with
          | [] => options ++ [('?', [])]
          | optarg :: rest => options ++ (pending, optarg) :: getopt optstring rest := by
  rw [getopt.eq_def]
  dsimp only
  split
  · rename_i heq
    cases heq
    exact absurd rfl hc
  · rename_i heq
    cases heq
    rfl
  · rename_i hother
    exact absurd rfl (hother c chars)

/-- An option without an argument, in a word of its own. -/
theorem getopt_flag {optstring : Text} {c : Char} (h : takesArgument optstring c = some false)
    (hc : c ≠ '-') (rest : List Text) :
    getopt optstring (['-', c] :: rest) = (c, []) :: getopt optstring rest := by
  have hword : wordOptions optstring [c] = ([(c, [])], none) := by
    simp [wordOptions, h]
  rw [getopt_word hc, hword]
  rfl

/-- An option with its argument in the next word. -/
theorem getopt_argument {optstring : Text} {c : Char}
    (h : takesArgument optstring c = some true) (hc : c ≠ '-') (optarg : Text)
    (rest : List Text) :
    getopt optstring (['-', c] :: optarg :: rest) = (c, optarg) :: getopt optstring rest := by
  have hword : wordOptions optstring [c] = ([], some c) := by
    simp [wordOptions, h]
  rw [getopt_word hc, hword]
  rfl

end CString
