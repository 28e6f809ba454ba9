import SmdControlServer.Text.Fields
import SmdControlServer.Server.SocketOps

/-!
# Counting and storing the tokens

`number_of_tokens` and `tokenize_client_input` are two loops over the same text.  Here they
are taken loop by loop, with the index at which each token is stored.  The loops agree on
how many tokens there are, so an array of as many elements as were counted is filled and
not overrun.  The size that `tokenize_client_input` is given does not stop its loop: it is
compared when everything has been stored.
-/

namespace SmdControlServer

open CString Interaction

/-! ## The two loops -/

/-- `number_of_tokens` as its loop computes it. -/
def countTokens (commandString : Text) : Int :=
  if ' ' ∈ commandString then
    -1
  else
    strsepLoop comma (fun numTokens _ => numTokens + 1) 0 (some commandString)

/-- `strcpy(array_of_commands[index], token)`. -/
structure TokenStore where
  index : Nat
  token : Text
  deriving DecidableEq

/-- The variables of the loop of `tokenize_client_input`, and what it has stored. -/
structure TokenizeLoop where
  numTokens : Nat
  returnArraySize : Nat
  stores : List TokenStore

/-- The body of the loop. -/
def storeToken (loop : TokenizeLoop) (token : Text) : TokenizeLoop where
  numTokens := loop.numTokens + 1
  returnArraySize := loop.returnArraySize + 1
  stores := loop.stores ++ [⟨loop.numTokens, token⟩]

/-- The loop of `tokenize_client_input`, which begins by clearing its counters. -/
def tokenizeLoop (input : Text) : TokenizeLoop :=
  strsepLoop comma storeToken ⟨0, 0, []⟩ (some input)

/-- What `tokenize_client_input` returns after its loop. -/
def tokenizeResult (input : Text) (arrayOfCommandsSize : Nat) : Int :=
  if (tokenizeLoop input).returnArraySize > arrayOfCommandsSize then -1 else 0

/-- Tokens stored one after the other, from an index on. -/
def storesFrom (index : Nat) : List Text → List TokenStore
  | [] => []
  | token :: tokens => ⟨index, token⟩ :: storesFrom (index + 1) tokens

theorem map_token_storesFrom (index : Nat) (tokens : List Text) :
    (storesFrom index tokens).map TokenStore.token = tokens := by
  induction tokens generalizing index with
  | nil => rfl
  | cons token tokens ih => rw [storesFrom, List.map_cons, ih]

theorem length_storesFrom (index : Nat) (tokens : List Text) :
    (storesFrom index tokens).length = tokens.length := by
  rw [← List.length_map, map_token_storesFrom]

/-- Every index from the first one on is used, and no other. -/
theorem exists_mem_storesFrom_iff {index i : Nat} {tokens : List Text} :
    (∃ store ∈ storesFrom index tokens, store.index = i) ↔
      index ≤ i ∧ i < index + tokens.length := by
  induction tokens generalizing index with
  | nil => simp [storesFrom]
  | cons token tokens ih =>
      rw [storesFrom, List.exists_mem_cons_iff, ih, List.length_cons]
      dsimp only
      omega

theorem foldl_storeToken (tokens : List Text) (loop : TokenizeLoop) :
    tokens.foldl storeToken loop =
      ⟨loop.numTokens + tokens.length, loop.returnArraySize + tokens.length,
        loop.stores ++ storesFrom loop.numTokens tokens⟩ := by
  induction tokens generalizing loop with
  | nil => simp [storesFrom]
  | cons token tokens ih =>
      rw [List.foldl_cons, ih, storeToken, storesFrom, List.length_cons,
        TokenizeLoop.mk.injEq]
      dsimp only
      refine ⟨by omega, by omega, ?_⟩
      rw [List.append_assoc, List.singleton_append]

theorem tokenizeLoop_eq (input : Text) :
    tokenizeLoop input =
      ⟨input.count comma + 1, input.count comma + 1, storesFrom 0 (input.splitOn comma)⟩ := by
  unfold tokenizeLoop
  rw [strsepLoop_eq_foldl, foldl_storeToken, length_splitOn, Nat.zero_add, List.nil_append]

theorem countTokens_of_no_space {s : Text} (h : ' ' ∉ s) : countTokens s = s.count comma + 1 := by
  unfold countTokens
  rw [if_neg h, strsepLoop_eq_foldl]
  have hcount : ∀ (tokens : List Text) (n : Int),
      tokens.foldl (fun numTokens _ => numTokens + 1) n = n + tokens.length := by
    intro tokens
    induction tokens with
    | nil => simp
    | cons token tokens ih =>
        intro n
        rw [List.foldl_cons, ih, List.length_cons]
        push_cast
        omega
  rw [hcount, length_splitOn]
  push_cast
  omega

theorem numberOfTokens_eq_countTokens (s : Text) : numberOfTokens s = countTokens s := by
  unfold numberOfTokens
  by_cases hspace : ' ' ∈ s
  · rw [if_pos hspace, countTokens, if_pos hspace]
  · rw [if_neg hspace, countTokens_of_no_space hspace, length_splitOn]
    push_cast
    rfl

theorem tokenizeClientInput_eq_loop (input : Text) (size : Nat) :
    tokenizeClientInput input size =
      ⟨(tokenizeLoop input).stores.map TokenStore.token, tokenizeResult input size⟩ := by
  unfold tokenizeClientInput tokenizeResult
  rw [tokenizeLoop_eq, map_token_storesFrom, length_splitOn]

/-- The counters are `int`s in the source and numbers in the loops.  They end as one more than
the commas, so they overflow from 2147483647 commas on, and not before. -/
theorem counters_fit_iff {s : Text} :
    (tokenizeLoop s).numTokens ≤ 2147483647 ∧ (tokenizeLoop s).returnArraySize ≤ 2147483647 ↔
      s.count comma < 2147483647 := by
  rw [tokenizeLoop_eq]
  show s.count comma + 1 ≤ 2147483647 ∧ s.count comma + 1 ≤ 2147483647 ↔ _
  omega

/-- A text with a space is not counted. -/
theorem countTokens_fits_iff {s : Text} :
    countTokens s ≤ 2147483647 ↔ ' ' ∈ s ∨ s.count comma < 2147483647 := by
  by_cases hspace : ' ' ∈ s
  · rw [countTokens, if_pos hspace]
    exact iff_of_true (by decide) (Or.inl hspace)
  · rw [countTokens_of_no_space hspace, or_iff_right hspace]
    omega

/-! ## The guarded calls -/

/-- Every token has been stored in an array of `size` elements. -/
def StoredInArray (input : Text) (size : Nat) : Prop :=
  ∀ store ∈ (tokenizeLoop input).stores, store.index < size

instance (input : Text) (size : Nat) : Decidable (StoredInArray input size) :=
  inferInstanceAs (Decidable (∀ store ∈ _, _))

theorem storedInArray_iff {input : Text} {size : Nat} :
    StoredInArray input size ↔ input.count comma < size := by
  unfold StoredInArray
  rw [tokenizeLoop_eq]
  constructor
  · intro h
    have hlast : ∃ store ∈ storesFrom 0 (input.splitOn comma),
        store.index = input.count comma :=
      exists_mem_storesFrom_iff.mpr ⟨Nat.zero_le _, by rw [length_splitOn]; omega⟩
    obtain ⟨store, hstore, hindex⟩ := hlast
    rw [← hindex]
    exact h store hstore
  · intro h store hstore
    have hused := exists_mem_storesFrom_iff.mp ⟨store, hstore, rfl⟩
    rw [length_splitOn] at hused
    omega

/-- A text without spaces has as many tokens as were counted, so an array of that size
holds them. -/
theorem stored_of_countTokens {s : Text} {n : Nat} (h : countTokens s = n) :
    StoredInArray s n ∧ tokenizeResult s n = 0 := by
  have hspace : ' ' ∉ s := by
    intro hspace
    rw [countTokens, if_pos hspace] at h
    omega
  rw [countTokens_of_no_space hspace] at h
  refine ⟨storedInArray_iff.mpr (by omega), ?_⟩
  rw [tokenizeResult, tokenizeLoop_eq, if_neg]
  dsimp only
  omega

/-- A guarded call with its array of `n` elements: a token stored behind them is undefined
behaviour. -/
def withArray (input : Text) (n : Nat) (handler : Tokenized → Server SmdResponseCode) :
    Server SmdResponseCode :=
  if countTokens input ≠ n then
    pure .invalidParameter
  else if ¬ StoredInArray input n then
    abort .outOfBounds
  else if tokenizeResult input n ≠ 0 then
    pure .invalidParameter
  else
    handler ⟨(tokenizeLoop input).stores.map TokenStore.token, 0⟩

theorem withTokens_eq_withArray (input : Text) (n : Nat)
    (handler : Tokenized → Server SmdResponseCode) :
    withTokens input n handler = withArray input n handler := by
  unfold withTokens withArray
  rw [numberOfTokens_eq_countTokens]
  by_cases hcount : countTokens input = n
  · obtain ⟨hinside, hresult⟩ := stored_of_countTokens hcount
    rw [if_neg (not_not_intro hcount), if_neg (not_not_intro hcount),
      if_neg (not_not_intro hinside), tokenizeClientInput_eq_loop]
    dsimp only
    rw [hresult]
  · rw [if_pos hcount, if_pos hcount]

/-- The calls of `parse_socket_input` that take a message apart, with the sizes of their
arrays. -/
def tokenizingCalls : List ((Text → Server SmdResponseCode) × Nat) :=
  [(handleConnect, 2), (handleJog, 5), (handleFindHome, 5), (handleSaveConfig, 8),
    (handleRelativeMove, 6), (handlePresetMotorPosition, 2), (handlePresetEncoderPosition, 2),
    (handleRunAssembledDwellMove, 2), (handleRunAssembledBlendMove, 2)]

/-- A call is guarded by the count of the tokens, and its stores stay inside its array: it is
the same call when each of them is checked. -/
def GuardsItsArray (call : Text → Server SmdResponseCode) (n : Nat) : Prop :=
  ∃ handler : Text → Tokenized → Server SmdResponseCode,
    ∀ input, call input = withTokens input n (handler input) ∧
      call input = withArray input n (handler input)

theorem guardsItsArray_of_eq {call : Text → Server SmdResponseCode} {n : Nat}
    {handler : Text → Tokenized → Server SmdResponseCode}
    (h : ∀ input, call input = withTokens input n (handler input)) : GuardsItsArray call n :=
  ⟨handler, fun input => ⟨h input, by rw [h input, withTokens_eq_withArray]⟩⟩

theorem guardsItsArray_of_mem {call : (Text → Server SmdResponseCode) × Nat}
    (h : call ∈ tokenizingCalls) : GuardsItsArray call.1 call.2 := by
  simp only [tokenizingCalls, List.mem_cons, List.not_mem_nil, or_false] at h
  rcases h with rfl | rfl | rfl | rfl | rfl | rfl | rfl | rfl | rfl
  all_goals
    dsimp only
    apply guardsItsArray_of_eq
    intro input
    first
      | exact rfl
      | (unfold handleJog jogIn; exact rfl)
      | (unfold handleFindHome findHomeIn; exact rfl)

/-- What follows the read in a turn of the manual mode, with the stores into its array of two
elements checked. -/
def handleSampleInArray (locals : ControllerLocals) : Server ControllerLocals :=
  if countTokens (ofBytes locals.buf) = 2 ∧ ¬ StoredInArray (ofBytes locals.buf) 2 then
    abort .outOfBounds
  else
    handleSample locals

/-- The turn of the manual mode's loop, with the stores into its array checked. -/
def manualModeIterationInArray (locals : ControllerLocals) : Server ControllerLocals :=
  readSample handleSampleInArray locals

theorem manualModeIteration_eq_inArray (locals : ControllerLocals) :
    manualModeIteration locals = manualModeIterationInArray locals := by
  have hsample : handleSampleInArray = handleSample := by
    funext locals
    unfold handleSampleInArray
    -- the count of two makes the check pass
    refine if_neg fun ⟨hcount, houtside⟩ => houtside ?_
    exact (stored_of_countTokens (n := 2) hcount).1
  unfold manualModeIteration manualModeIterationInArray
  rw [hsample]

/-- The count and the stores agree on every text, the tokens are stored one behind the other
from index 0 on, and joined with commas they are the text.  So a call that is guarded by the
count fills its array and stays inside it: each call of the dispatcher, and the one of the
manual mode, is what it is with its stores checked. -/
theorem tokens_counted_and_stored (s : Text) :
    (numberOfTokens s = countTokens s ∧
      ∀ size, tokenizeClientInput s size =
        ⟨(tokenizeLoop s).stores.map TokenStore.token, tokenizeResult s size⟩) ∧
    (' ' ∈ s → countTokens s = -1) ∧
    (' ' ∉ s → countTokens s = s.count comma + 1 ∧
      countTokens s = (tokenizeLoop s).stores.length) ∧
    (tokenizeLoop s).stores = storesFrom 0 (s.splitOn comma) ∧
    (∀ store ∈ (tokenizeLoop s).stores, comma ∉ store.token) ∧
    [comma].intercalate ((tokenizeLoop s).stores.map TokenStore.token) = s ∧
    (∀ n : Nat, countTokens s = n → StoredInArray s n ∧ tokenizeResult s n = 0) ∧
    (∀ call ∈ tokenizingCalls, GuardsItsArray call.1 call.2) ∧
    ∀ locals, manualModeIteration locals = manualModeIterationInArray locals := by
  have htokens : (tokenizeLoop s).stores.map TokenStore.token = s.splitOn comma := by
    rw [tokenizeLoop_eq, map_token_storesFrom]
  refine ⟨⟨numberOfTokens_eq_countTokens s, tokenizeClientInput_eq_loop s⟩, ?_, ?_,
    by rw [tokenizeLoop_eq], ?_, ?_, fun n => stored_of_countTokens,
    fun call => guardsItsArray_of_mem, manualModeIteration_eq_inArray⟩
  · intro hspace
    rw [countTokens, if_pos hspace]
  · intro hspace
    have hcount := countTokens_of_no_space hspace
    refine ⟨hcount, ?_⟩
    rw [hcount, tokenizeLoop_eq, length_storesFrom, length_splitOn]
    push_cast
    rfl
  · intro store hstore
    refine separator_not_mem_splitOn (s := s) ?_
    rw [← htokens]
    exact List.mem_map_of_mem hstore
  · rw [htokens]
    exact List.intercalate_splitOn comma

/-! ## The size that is given -/

/-- What the size is for: the stores stay below it, and -1 says that there were more tokens
than elements, in which case nothing has been stored behind the last element. -/
def TokenizesSafely (input : Text) (capacity : Nat) : Prop :=
  StoredInArray input capacity ∧
    (tokenizeResult input capacity = -1 ↔ capacity < (input.splitOn comma).length) ∧
    (tokenizeResult input capacity = -1 → StoredInArray input capacity)

/-- The result is -1 for exactly the inputs with too many tokens, and all of these tokens
have been stored by then.  So the size is kept only by inputs with fewer commas than it. -/
theorem tokenizesSafely_iff (input : Text) (capacity : Nat) :
    TokenizesSafely input capacity ↔ input.count comma < capacity := by
  have hresult : tokenizeResult input capacity = -1 ↔
      capacity < (input.splitOn comma).length := by
    rw [tokenizeResult, tokenizeLoop_eq, length_splitOn]
    by_cases hover : input.count comma + 1 > capacity
    · rw [if_pos hover]
      exact iff_of_true rfl hover
    · rw [if_neg hover]
      exact iff_of_false (by decide) hover
  constructor
  · rintro ⟨hinside, _, _⟩
    exact storedInArray_iff.mp hinside
  · intro hcapacity
    have hinside := storedInArray_iff.mpr hcapacity
    exact ⟨hinside, hresult, fun _ => hinside⟩

/-- Two tokens for an array of one element: the second is stored behind it. -/
theorem two_tokens_in_one_element :
    ¬ ∀ (input : Text) (capacity : Nat), TokenizesSafely input capacity := by
  intro h
  have hinside := (h "a,b".toList 1).1
  exact absurd (storedInArray_iff.mp hinside) (by decide +kernel)

end SmdControlServer
