import SmdControlServer.Commands.Messages

/-!
# The address of a `connect`

Which drive a `connect` goes to depends on how the client ends its line.  The
address is copied without its last character, and after that cut at a newline, so it
comes out whole where the line ends with a newline alone, and nowhere else.
-/

namespace SmdControlServer

open CString Interaction

/-- An address as it stands in a message: no separator, no space, no end of a line. -/
structure Address where
  text : Text
  plain : ∀ c ∈ text, c ≠ comma ∧ c ≠ ' ' ∧ c ≠ '\r' ∧ c ≠ '\n'

theorem plain_known :
    ∀ c ∈ "10.0.0.5".toList, c ≠ comma ∧ c ≠ ' ' ∧ c ≠ '\r' ∧ c ≠ '\n' := by
  have hall : ("10.0.0.5".toList.all fun c =>
      decide (c ≠ comma ∧ c ≠ ' ' ∧ c ≠ '\r' ∧ c ≠ '\n')) = true := by decide
  exact fun c hc => of_decide_eq_true (List.all_eq_true.mp hall c hc)

/-- The address `10.0.0.5`. -/
def Address.known : Address where
  text := "10.0.0.5".toList
  plain := plain_known

namespace Address

variable (h : Address) (ending : LineEnding)

/-- The message that asks for a connection to the address. -/
def message : Text :=
  "connect,".toList ++ h.text ++ ending.text

/-- What the server takes for the address; `none` where the length of the copy goes
below zero. -/
def taken : Option Text :=
  match ending with
  | .none => if h.text = [] then none else some h.text.dropLast
  | .newline => some h.text
  | .carriageReturnNewline => some (h.text ++ ['\r'])

/-! ## The tokens -/

theorem not_mem_token {c : Char} (hc : c = comma ∨ c = ' ') :
    c ∉ h.text ++ ending.text := by
  rw [List.mem_append]
  rintro (hmem | hmem)
  · obtain ⟨hcomma, hspace, _⟩ := h.plain c hmem
    exact hc.elim hcomma hspace
  · rcases ending.chars c hmem with rfl | rfl
    · exact absurd hc (by decide)
    · exact absurd hc (by decide)

/-- The end of the line belongs to the second token. -/
theorem splitOn_message :
    (h.message ending).splitOn comma = ["connect".toList, h.text ++ ending.text] := by
  have hmessage : h.message ending =
      [comma].intercalate ["connect".toList, h.text ++ ending.text] := by
    rw [List.intercalate_cons_cons, List.intercalate_singleton, ← List.append_assoc]
    rfl
  rw [hmessage]
  refine List.splitOn_intercalate comma ?_ (by simp)
  intro l hl
  rcases List.mem_cons.mp hl with rfl | hl
  · decide
  · rw [List.mem_singleton.mp hl]
    exact h.not_mem_token ending (Or.inl rfl)

theorem numberOfTokens_message : numberOfTokens (h.message ending) = 2 := by
  have hspace : ' ' ∉ h.message ending := by
    unfold message
    rw [List.append_assoc, List.mem_append]
    rintro (hname | htoken)
    · exact absurd hname (by decide)
    · exact h.not_mem_token ending (Or.inr rfl) htoken
  unfold numberOfTokens
  rw [if_neg hspace, splitOn_message]
  rfl

theorem startsWith_message : startsWith (h.message ending) "connect".toList = true := by
  rw [startsWith_iff]
  refine ⟨comma :: (h.text ++ ending.text), ?_⟩
  unfold message
  rw [List.append_assoc]
  rfl

/-! ## The copies -/

/-- What is left of the second token. -/
theorem taken_eq :
    h.taken ending =
      if h.text ++ ending.text = [] then none
      else some (deviceIpOf (h.text ++ ending.text)) := by
  have hplain : ∀ c ∈ h.text, c ≠ '\n' := fun c hc => (h.plain c hc).2.2.2
  unfold taken deviceIpOf
  cases ending with
  | none =>
      have hcopy : ∀ c ∈ h.text.dropLast, c ≠ '\n' :=
        fun c hc => hplain c (List.mem_of_mem_dropLast hc)
      simp only [LineEnding.text, List.append_nil, cutAt_eq_self fun h => hcopy _ h rfl]
  | newline =>
      -- the character that is left out is the newline
      simp [LineEnding.text, cutAt_eq_self fun h => hplain _ h rfl]
  | carriageReturnNewline =>
      have hcopy : ∀ c ∈ h.text ++ ['\r'], c ≠ '\n' := by
        intro c hc
        rcases List.mem_append.mp hc with hc | hc
        · exact hplain c hc
        · rw [List.mem_singleton.mp hc]
          decide
      have htoken : (h.text ++ ['\r', '\n']).dropLast = h.text ++ ['\r'] := by
        rw [show h.text ++ ['\r', '\n'] = (h.text ++ ['\r']) ++ ['\n'] by simp,
          List.dropLast_concat]
      simp [LineEnding.text, htoken, cutAt_eq_self fun h => hcopy _ h rfl]

theorem taken_eq_some_iff : h.taken ending = some h.text ↔ ending = .newline := by
  cases ending with
  | none =>
      unfold taken
      -- one character is missing, unless there was none
      by_cases hnil : h.text = []
      · simp [hnil]
      · have hlength : h.text.dropLast ≠ h.text := by
          intro heq
          have hlt := List.length_pos_iff.mpr hnil
          have hlen := congrArg List.length heq
          rw [List.length_dropLast] at hlen
          omega
        simp [hnil, hlength]
  | newline => simp [taken]
  | carriageReturnNewline => simp [taken]

end Address

/-! ## The connection -/

/-- The attempt to open the connection ends, leaves the address as it is and is seen in
the log. -/
theorem exists_runs_smdOpenCommandConnection (w : World) :
    ∃ r w', Runs server smdOpenCommandConnection w r w' ∧
      w'.globals.deviceIp = w.globals.deviceIp ∧ w'.log ≠ w.log := by
  have hassign : ∀ ctx, (w.takeContext.assign (.smdCommandConnection ctx)).ip = w.ip :=
    fun _ => rfl
  unfold smdOpenCommandConnection
  by_cases hip : w.ip = []
  · simp [hassign, hip, Globals.assign]
  · cases hconnects : w.drive.head.connects with
    | false => simp [hassign, hip, hconnects, Globals.assign]
    | true => simp [hassign, hip, hconnects, Globals.assign]

/-- The code opens the command connection with this text as `DEVICE_IP`, and does
nothing else. -/
def OpensConnectionTo (p : Server SmdResponseCode) (w : World) (ip : Text) : Prop :=
  ∀ r w', Runs server p w r w' ↔
    Runs server smdOpenCommandConnection (w.assign (.deviceIp (some ip))) r w'

/-- The code answers and leaves everything as it is. -/
def Refuses (p : Server SmdResponseCode) (w : World) : Prop :=
  ∃ r, Runs server p w r w

/-- While not connected, a `connect` opens the connection to the address that is taken,
or does not come to an end. -/
theorem runs_connect_iff {w w' : World} (hclosed : w.globals.smdConnected = 0) (h : Address)
    (ending : LineEnding) (cl : Int) {r : SmdResponseCode} :
    Runs server (parseSocketInput (h.message ending) cl) w r w' ↔
      ∃ ip, h.taken ending = some ip ∧
        Runs server smdOpenCommandConnection (w.assign (.deviceIp (some ip))) r w' := by
  have htokens : tokenizeClientInput (h.message ending) 2 =
      ⟨["connect".toList, h.text ++ ending.text], 0⟩ := by
    unfold tokenizeClientInput
    rw [h.splitOn_message]
    rfl
  have htoken : (⟨["connect".toList, h.text ++ ending.text], 0⟩ : Tokenized).token 1 =
      h.text ++ ending.text := rfl
  unfold parseSocketInput dispatchIn handleConnect withTokens
  simp only [Program.bind_eq_bind, Program.perform_bind, Program.done_bind, runs_globals,
    hclosed, if_true, h.startsWith_message, h.numberOfTokens_message, htokens, htoken]
  rw [h.taken_eq]
  by_cases hnil : h.text ++ ending.text = []
  · simp only [hnil, List.length_nil, if_true, reduceCtorEq, false_and, exists_false,
      iff_false]
    exact not_runs_abort
  · rw [List.append_eq_nil_iff] at hnil
    simp [hnil]

/-- The message is refused or connects to the address in it just where that address is
what is taken. -/
theorem addressed_iff_taken {w : World} (hclosed : w.globals.smdConnected = 0)
    (h : Address) (ending : LineEnding) (cl : Int) :
    (Refuses (parseSocketInput (h.message ending) cl) w ∨
      OpensConnectionTo (parseSocketInput (h.message ending) cl) w h.text) ↔
      h.taken ending = some h.text := by
  constructor
  · rintro (⟨r, hrefuses⟩ | hopens)
    · -- every run opens a connection, which the log shows
      obtain ⟨ip, _, hrun⟩ := (runs_connect_iff hclosed h ending cl).mp hrefuses
      obtain ⟨r', w', hrun', _, hlog⟩ :=
        exists_runs_smdOpenCommandConnection (w.assign (.deviceIp (some ip)))
      obtain ⟨_, rfl⟩ := hrun.unique hrun'
      exact absurd rfl hlog
    · obtain ⟨r, w', hrun, haddress, _⟩ :=
        exists_runs_smdOpenCommandConnection (w.assign (.deviceIp (some h.text)))
      obtain ⟨ip, htaken, hrun'⟩ :=
        (runs_connect_iff hclosed h ending cl).mp ((hopens r w').mpr hrun)
      obtain ⟨r'', w'', hrun'', haddress', _⟩ :=
        exists_runs_smdOpenCommandConnection (w.assign (.deviceIp (some ip)))
      obtain ⟨_, rfl⟩ := hrun'.unique hrun''
      -- and DEVICE_IP keeps what was taken
      have hsame : some ip = some h.text := haddress'.symm.trans haddress
      rw [htaken, hsame]
  · intro htaken
    refine Or.inr fun r w' => ?_
    rw [runs_connect_iff hclosed h ending cl, htaken]
    simp

/-- The drive that the client names is the one that is connected to, or the message is
refused, exactly where the line ends with a newline alone. -/
theorem connect_addressed_iff {w : World} (hclosed : w.globals.smdConnected = 0)
    (h : Address) (ending : LineEnding) (cl : Int) :
    (Refuses (parseSocketInput (h.message ending) cl) w ∨
      OpensConnectionTo (parseSocketInput (h.message ending) cl) w h.text) ↔
      ending = .newline := by
  rw [addressed_iff_taken hclosed h ending cl, h.taken_eq_some_iff]

/-- A server without a connection, before a drive that does what it is asked. -/
def World.waiting : World :=
  World.facing Globals.initial (Stream'.const (Session.answering fun _ => 0))

/-- A line that ends with a newline is connected to the address in it. -/
theorem connect_addressed_newline :
    Refuses (parseSocketInput (Address.known.message .newline) 5) World.waiting ∨
      OpensConnectionTo (parseSocketInput (Address.known.message .newline) 5)
        World.waiting "10.0.0.5".toList :=
  (connect_addressed_iff rfl Address.known .newline 5).mpr rfl

/-- Without an end of the line, the last digit of the address is lost. -/
theorem connect_without_ending :
    OpensConnectionTo (parseSocketInput "connect,10.0.0.5".toList 5) World.waiting
        "10.0.0.".toList ∧
      ¬ (Refuses (parseSocketInput "connect,10.0.0.5".toList 5) World.waiting ∨
        OpensConnectionTo (parseSocketInput "connect,10.0.0.5".toList 5) World.waiting
          "10.0.0.5".toList) := by
  have hmessage : "connect,10.0.0.5".toList = Address.known.message .none := by decide
  have htaken : Address.known.taken .none = some "10.0.0.".toList := by decide
  rw [hmessage]
  constructor
  · intro r w'
    rw [runs_connect_iff rfl]
    simp only [htaken, Option.some.injEq, exists_eq_left']
  · intro haddressed
    rw [(addressed_iff_taken rfl Address.known .none 5).mp haddressed] at htaken
    exact absurd htaken (by decide)

end SmdControlServer
