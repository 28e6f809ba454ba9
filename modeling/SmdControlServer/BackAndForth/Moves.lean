import SmdControlServer.BackAndForth.Turns

/-!
# The moves of the example

The example and the server follow one another line by line: the example has no line under way
but the one whose answer it waits for, and it goes on only when the server has sent the
command of that line.  A connection that breaks leaves what has been sent as it is.  So the
drive does an initial part of what the options ask for, whatever goes wrong, and all of it if
the example prints its last line.
-/

namespace SmdControlServer

open CString Interaction

namespace BackAndForth

/-! ## The lines -/

section

variable (a : MoveOptions)

/-- The lines in the order in which they are written. -/
def line : Nat → Text
  | 0 => connectLine
  | 1 => resetErrorsLine
  | 2 => presetMotorPositionLine
  | _ + 3 => relativeMoveLine a

/-- The commands of a line. -/
def asked : Nat → List MotorCommand
  | 0 => []
  | 1 => [.resetErrors]
  | 2 => [.presetMotor 0]
  | _ + 3 => [a.move]

/-- The commands of the first `k` lines. -/
def commands (k : Nat) : List MotorCommand :=
  (List.range k).flatMap (asked a)

/-- The number of lines, if the moves are counted. -/
def total : Nat :=
  a.iterations.toNat + 3

end

/-- What the example takes for the success of a line. -/
def pattern : Nat → Text
  | 0 => "SMD_CONNECT_SUCCESS".toList
  | 2 => "PRESET_POSITION_SUCCESS".toList
  | _ => "COMMAND_SUCCESS".toList

/-- The code with which the server means it. -/
def success : Nat → SmdResponseCode
  | 0 => .connectSuccess
  | 2 => .presetPosSuccess
  | _ => .commandSuccess

section

variable {a : MoveOptions}

theorem commands_succ (k : Nat) : commands a (k + 1) = commands a k ++ asked a k := by
  unfold commands
  rw [List.range_succ, List.flatMap_append, List.flatMap_singleton]

/-- The errors are reset, the position is preset, and the rest are moves. -/
theorem commands_add_three (n : Nat) :
    commands a (n + 3) = .resetErrors :: .presetMotor 0 :: List.replicate n a.move := by
  induction n with
  | zero => rfl
  | succ n ih =>
      rw [show n + 1 + 3 = (n + 3) + 1 by omega, commands_succ, ih, List.replicate_succ']
      rfl

/-- What has come after a line of the server stands before the next one. -/
def Settled (inbox : Text) : Prop :=
  inbox = [] ∨ inbox = ['\n']

/-- The patterns of the example with the codes that they stand for. -/
def successes : List (Text × SmdResponseCode) :=
  [("SMD_CONNECT_SUCCESS".toList, .connectSuccess),
    ("PRESET_POSITION_SUCCESS".toList, .presetPosSuccess),
    ("COMMAND_SUCCESS".toList, .commandSuccess)]

theorem mem_successes (k : Nat) : (pattern k, success k) ∈ successes := by
  match k with
  | 0 => exact .head _
  | 1 => exact .tail _ (.tail _ (.head _))
  | 2 => exact .tail _ (.head _)
  | _ + 3 => exact .tail _ (.tail _ (.head _))

/-- The pattern is found in the line of success, and in no other. -/
theorem afterMatch_reply {inbox : Text} (h : Settled inbox) (k : Nat) {r : SmdResponseCode}
    (hr : r ∈ replyCodes) :
    afterMatch (pattern k) (inbox ++ replyLine r) =
      if r = success k then some ['\n'] else none := by
  have hall : ∀ p ∈ successes, ∀ r ∈ replyCodes, ∀ inbox ∈ [[], ['\n']],
      afterMatch p.1 (inbox ++ replyLine r) = if r = p.2 then some ['\n'] else none := by
    decide +kernel
  exact hall _ (mem_successes k) r hr inbox (by simpa [Settled] using h)

/-- There is no pattern in what has been settled. -/
theorem afterMatch_settled {inbox : Text} (h : Settled inbox) (k : Nat) :
    afterMatch (pattern k) inbox = none := by
  have hall : ∀ p ∈ successes, ∀ inbox ∈ [[], ['\n']], afterMatch p.1 inbox = none := by
    decide +kernel
  exact hall _ (mem_successes k) inbox (by simpa [Settled] using h)

/-! ## The server between two lines -/

/-- The server as it waits for line `k`, if those before it were successful.  No number that
it has read before has left its `errno` behind. -/
def Waits : Nat → World → Prop
  | 0, w => w.Unconnected ∧ w.errno ≠ erange
  | _ + 1, w => w.Commanded

theorem Waits.atDispatch {k : Nat} {w : World} (h : Waits k w) {input : Text}
    (hmessage : w.nextMessage = some input) (cl : Int) : Waits k (w.atDispatch cl input) := by
  obtain ⟨memory, heq⟩ := World.exists_atDispatch_eq hmessage cl
  rw [heq]
  cases k with
  | zero =>
      obtain ⟨hunconnected, herrno⟩ := h
      exact ⟨⟨hunconnected.closed, hunconnected.notWaiting, hunconnected.notManual⟩, herrno⟩
  | succ k => exact ⟨h.scenario, h.address, h.errno⟩

/-- Each line is dealt with as its command. -/
theorem deals_line (ha : a.Int32) {k : Nat} {w : World} (h : Waits k w) :
    Deals (line a k) (success k) (asked a k) w := by
  match k, h with
  | 0, h => exact deals_connectLine h.1 h.2
  | 1, h =>
      exact (dispatchesTo_resetErrors h).deals h (by decide) (by decide) (by decide)
  | 2, h =>
      exact (dispatchesTo_presetMotorPosition h).deals h (by decide) (by decide) (by decide)
  | _ + 3, h =>
      exact (dispatchesTo_relativeMove h ha).deals h (by decide) (by decide) (by decide)

/-- Since the world `w₀`, the commands of the first `k` lines and no others have been written
to the drive. -/
structure Performed (a : MoveOptions) (w₀ : World) (k : Nat) (w : World) : Prop where
  written : Observed Event.written? w₀ w (commandWrites (commands a k))
  checked : ∀ command ∈ commands a k, command.Checked

theorem Performed.turned {w₀ w w' : World} {k : Nat} {r : SmdResponseCode}
    (h : Performed a w₀ k w) (hturned : Turned (success k) (asked a k) w r w') :
    Performed a w₀ (if r = success k then k + 1 else k) w' := by
  have hwritten := h.written.trans hturned.written
  by_cases hr : r = success k
  · rw [if_pos hr] at hwritten ⊢
    refine ⟨?_, ?_⟩
    · rw [commands_succ]
      unfold commandWrites at hwritten ⊢
      rwa [List.flatMap_append]
    · rw [commands_succ]
      intro command hmem
      rcases List.mem_append.mp hmem with hmem | hmem
      · exact h.checked command hmem
      · exact hturned.checked hr command hmem
  · rw [if_neg hr, List.append_nil] at hwritten
    rw [if_neg hr]
    exact ⟨hwritten, h.checked⟩

/-! ## The two ends -/

variable {w₀ : World} {k : Nat} {t t' : Telnet}

/-- The server has not read line `k` yet. -/
structure Pending (a : MoveOptions) (w₀ : World) (k : Nat) (t : Telnet) : Prop where
  outbox : t.gone = false → t.outbox = [line a k]
  waits : t.gone = false → Waits k t.world
  performed : Performed a w₀ k t.world

/-- The server has dealt with line `k`, one way or another. -/
structure DealtWith (a : MoveOptions) (w₀ : World) (k : Nat) (t : Telnet) : Prop where
  outbox : t.gone = false → t.outbox = []
  performed : ∃ k' ≤ k + 1, Performed a w₀ k' t.world

/-- In this state the example may go on to line `k`. -/
structure Ready (a : MoveOptions) (w₀ : World) (k : Nat) (t : Telnet) : Prop where
  outbox : t.gone = false → t.outbox = []
  inbox : Settled t.inbox
  waits : t.gone = false → Waits k t.world
  performed : Performed a w₀ k t.world

/-- The server has dealt with line `k`, and if the example finds the pattern then with
success. -/
structure Answered (a : MoveOptions) (w₀ : World) (k : Nat) (t : Telnet) : Prop where
  dealtWith : DealtWith a w₀ k t
  ready : ∀ rest, afterMatch (pattern k) t.inbox = some rest →
    Ready a w₀ (k + 1) { t with inbox := rest }

/-- One turn of the server deals with the line. -/
theorem Pending.turned (ha : a.Int32) (h : Pending a w₀ k t) (htakes : t.TakesLine t') :
    ∃ r, Turned (success k) (asked a k) t.world r t'.world ∧ t'.outbox = [] ∧
      t'.output = t.output ∧ t'.inbox = t.inbox ++ Telnet.told t.world t'.world := by
  obtain ⟨hhere, text, rest, cl', w', houtbox, hmessage, hruns, rfl⟩ := htakes
  rw [h.outbox hhere] at houtbox
  obtain ⟨rfl, rfl⟩ := List.cons.inj houtbox
  have hwaits := (h.waits hhere).atDispatch hmessage t.cl
  obtain ⟨r, w₁, hturned, hiff⟩ := (deals_line ha hwaits).turn hmessage
  obtain ⟨rfl, rfl⟩ := (hiff cl' w').mp hruns
  exact ⟨r, hturned, rfl, rfl, rfl⟩

theorem Pending.dealtWith (ha : a.Int32) (h : Pending a w₀ k t) (htakes : t.TakesLine t') :
    DealtWith a w₀ k t' ∧ t'.output = t.output := by
  obtain ⟨r, hturned, houtbox, houtput, _⟩ := h.turned ha htakes
  refine ⟨⟨fun _ => houtbox, _, ?_, h.performed.turned hturned⟩, houtput⟩
  split <;> omega

theorem Pending.answered (ha : a.Int32) (h : Pending a w₀ k t) (hinbox : Settled t.inbox)
    (htakes : t.TakesLine t') : Answered a w₀ k t' ∧ t'.output = t.output := by
  obtain ⟨r, hturned, houtbox, houtput, hnew⟩ := h.turned ha htakes
  refine ⟨⟨(h.dealtWith ha htakes).1, fun rest hmatch => ?_⟩, houtput⟩
  rw [hnew] at hmatch
  rcases hturned.told with ⟨htold, hcommanded⟩ | htold
  · rw [htold, afterMatch_reply hinbox k hturned.code] at hmatch
    by_cases hr : r = success k
    · rw [if_pos hr] at hmatch
      obtain rfl := Option.some.inj hmatch
      have hperformed := h.performed.turned hturned
      rw [if_pos hr] at hperformed
      exact ⟨fun _ => houtbox, Or.inr rfl, fun _ => hcommanded hr, hperformed⟩
    · rw [if_neg hr] at hmatch
      cases hmatch
  · -- nothing has come, and nothing was there
    rw [htold, List.append_nil, afterMatch_settled hinbox k] at hmatch
    cases hmatch

/-! ### The server hangs up -/

theorem Performed.hangsUp (h : Performed a w₀ k t.world) (hhangs : t.HangsUp t') :
    Performed a w₀ k t'.world := by
  obtain ⟨_, hnone, cl', w', hruns, rfl⟩ := hhangs
  have hwritten := h.written.trans (observed_written_of_none hnone hruns)
  rw [List.append_nil] at hwritten
  exact ⟨hwritten, h.checked⟩

theorem Pending.hangsUp (hhangs : t.HangsUp t') (h : Pending a w₀ k t) : Pending a w₀ k t' :=
  ⟨hhangs.vacuous, hhangs.vacuous, h.performed.hangsUp hhangs⟩

theorem DealtWith.hangsUp (hhangs : t.HangsUp t') (h : DealtWith a w₀ k t) :
    DealtWith a w₀ k t' := by
  obtain ⟨k', hk', hperformed⟩ := h.performed
  exact ⟨hhangs.vacuous, k', hk', hperformed.hangsUp hhangs⟩

theorem Ready.hangsUp (hhangs : t.HangsUp t') (h : Ready a w₀ k t) : Ready a w₀ k t' :=
  ⟨hhangs.vacuous, by rw [hhangs.inbox]; exact h.inbox, hhangs.vacuous,
    h.performed.hangsUp hhangs⟩

/-- The answer may be there still. -/
theorem Answered.hangsUp (hhangs : t.HangsUp t') (h : Answered a w₀ k t) :
    Answered a w₀ k t' := by
  refine ⟨DealtWith.hangsUp hhangs h.dealtWith, fun rest hmatch => ?_⟩
  rw [hhangs.inbox] at hmatch
  have hready := h.ready rest hmatch
  have hperformed : Performed a w₀ (k + 1) t'.world :=
    Performed.hangsUp (t := t) hready.performed hhangs
  exact ⟨hhangs.vacuous, hready.inbox, hhangs.vacuous, hperformed⟩

end

/-! ## What the example keeps to -/

/-- How far the example is: it may write line `k`, it waits for its answer, it has given up,
or it has printed its last line. -/
inductive Phase where
  | ready (k : Nat)
  | awaiting (k : Nat)
  | gaveUp
  | finished

section

variable (a : MoveOptions)

/-- There are no more lines than the moves ask for. -/
def Within (k : Nat) : Prop :=
  0 < a.iterations → k ≤ total a

/-- All the lines have been answered. -/
def Complete (k : Nat) : Prop :=
  0 < a.iterations ∧ k = total a ∧ moveTime a ≠ none

/-- The lines are written in their order, each is followed by the wait for its answer, and
nothing follows when an answer has not been found. -/
def monitor : Monitor scriptSignature Phase where
  allows
    | .ready k, .write text => text = line a k ∧ Within a (k + 1)
    | .ready k, .print text => text = doneText → Complete a k
    | .ready _, .expect _ _ => False
    | .ready _, _ => True
    | .awaiting k, .expect text _ => text = pattern k
    | .gaveUp, .print text => text ≠ doneText
    | _, _ => False
  expects _ _ _ := True
  next
    | .ready k, .write _, written => if written then .awaiting k else .gaveUp
    | .ready k, .print text, _ => if text = doneText then .finished else .ready k
    | .awaiting k, .expect _ _, .found => .ready (k + 1)
    | .awaiting _, _, _ => .gaveUp
    | q, _, _ => q
  pre
    | .whileMovesLeft a' i, q => a' = a ∧ 0 < a.iterations ∧ 0 ≤ i ∧
        ∃ k, q = .ready k ∧ k + i.toNat = total a ∧ 3 ≤ k ∧ (3 < k → moveTime a ≠ none)
    | .whileTrue a', q => a' = a ∧ ¬ 0 < a.iterations ∧ ∃ k, q = .ready k ∧ 3 ≤ k
  post _ _ finished q := finished = true → ∃ k, q = .ready k ∧ Complete a k

/-- What relates the phase of the example to the two ends. -/
def Related (w₀ : World) : Phase → Telnet → Prop
  | .ready k, t => Ready a w₀ k t ∧ Within a k ∧ doneText ∉ t.output
  | .awaiting k, t => (Pending a w₀ k t ∧ Settled t.inbox ∨ Answered a w₀ k t) ∧
      Within a (k + 1) ∧ doneText ∉ t.output
  | .gaveUp, t => (∃ k, (Pending a w₀ k t ∨ DealtWith a w₀ k t) ∧ Within a (k + 1)) ∧
      doneText ∉ t.output
  | .finished, t => (t.gone = false → t.outbox = []) ∧ Performed a w₀ (total a) t.world ∧
      0 < a.iterations ∧ moveTime a ≠ none

end

/-! ## The script keeps to it -/

section

variable {a : MoveOptions} {k : Nat} {post : Phase → Prop} {q : Phase}

theorem safe_thenIf {p p' : Script Bool}
    (h : p.Safe (monitor a) (fun b q' => b = true →
      p'.Safe (monitor a) (fun b q'' => b = true → post q'') q') q) :
    (thenIf p p').Safe (monitor a) (fun b q' => b = true → post q') q := by
  refine Program.Safe.bind (h.mono fun b q' hb => ?_)
  cases b with
  | true => exact hb rfl
  | false =>
      intro hfalse
      cases hfalse

/-- A line in its turn, and the wait for its answer. -/
theorem safe_exchange (hwithin : Within a (k + 1)) {text patternText complaint : Text}
    (hline : text = line a k) (hpattern : patternText = pattern k)
    (hcomplaint : complaint ≠ doneText) :
    (exchange text patternText complaint).Safe (monitor a)
      (fun b q => b = true → q = .ready (k + 1)) (.ready k) := by
  refine ⟨⟨hline, hwithin⟩, fun written _ => ?_⟩
  cases written with
  | false =>
      refine ⟨?_, fun _ _ hfalse => absurd hfalse Bool.false_ne_true⟩
      show "Could not write to AMCI host at ".toList ++ amciHost ≠ doneText
      decide
  | true =>
      refine ⟨hpattern, fun answer _ => ?_⟩
      cases answer with
      | found => exact fun _ => rfl
      | timedOut => exact ⟨hcomplaint, fun _ _ hfalse => absurd hfalse Bool.false_ne_true⟩
      | raised => exact fun hfalse => absurd hfalse Bool.false_ne_true

/-- One move more. -/
theorem safe_moveOnce (hwithin : Within a (k + 1)) (hk : 3 ≤ k) :
    (moveOnce a).Safe (monitor a)
      (fun b q => b = true → q = .ready (k + 1) ∧ moveTime a ≠ none) (.ready k) := by
  obtain ⟨n, rfl⟩ : ∃ n, k = n + 3 := ⟨k - 3, by omega⟩
  refine safe_thenIf ((safe_exchange hwithin rfl rfl (by decide)).mono ?_)
  rintro b q hq hb
  obtain rfl := hq hb
  cases htime : moveTime a with
  | none => exact fun hfalse => absurd hfalse Bool.false_ne_true
  | some hundredths => exact ⟨trivial, fun _ _ _ => ⟨rfl, by simp⟩⟩

theorem safe_body (p : ScriptProcedure) (q : Phase) (hpre : (monitor a).pre p q) :
    (procedureBody p).Safe (monitor a) ((monitor a).post p q) q := by
  cases p with
  | whileMovesLeft a' i =>
      obtain ⟨rfl, hcounted, hi, k, rfl, hleft, hk, htime⟩ := hpre
      refine Program.Safe.ite (fun hmore => ?_) fun hnone => ?_
      · have hwithin : Within a' (k + 1) := fun _ => by omega
        refine safe_thenIf ((safe_moveOnce hwithin hk).mono ?_)
        rintro b q hq hb
        obtain ⟨rfl, hsome⟩ := hq hb
        exact ⟨⟨rfl, hcounted, by omega, k + 1, rfl, by omega, by omega, fun _ => hsome⟩,
          fun x q' hx => hx⟩
      · have hcomplete : Complete a' k := by
          refine ⟨hcounted, by omega, htime ?_⟩
          unfold total at hleft
          omega
        exact fun _ => ⟨k, rfl, hcomplete⟩
  | whileTrue a' =>
      obtain ⟨rfl, hendless, k, rfl, hk⟩ := hpre
      have hwithin : Within a' (k + 1) := fun hcounted => absurd hcounted hendless
      refine safe_thenIf ((safe_moveOnce hwithin hk).mono ?_)
      rintro b q hq hb
      obtain ⟨rfl, _⟩ := hq hb
      exact ⟨⟨rfl, hendless, k + 1, rfl, by omega⟩, fun x q' hx => hx⟩

theorem safe_converse :
    (converse a).Safe (monitor a) (fun b q => b = true → ∃ k, q = .ready k ∧ Complete a k)
      (.ready 0) := by
  have hwithin : ∀ k, k < 3 → Within a (k + 1) := by
    intro k hk _
    unfold total
    omega
  refine safe_thenIf ((safe_exchange (hwithin 0 (by omega)) rfl rfl (by decide)).mono ?_)
  rintro b q hq hb
  obtain rfl := hq hb
  refine safe_thenIf ((safe_exchange (hwithin 1 (by omega)) rfl rfl (by decide)).mono ?_)
  rintro b q hq hb
  obtain rfl := hq hb
  refine safe_thenIf ((safe_exchange (hwithin 2 (by omega)) rfl rfl (by decide)).mono ?_)
  rintro b q hq hb
  obtain rfl := hq hb
  refine Program.Safe.ite (fun hcounted => ?_) fun hendless => ?_
  · refine ⟨⟨rfl, hcounted, by omega, 3, rfl, ?_, by omega, by omega⟩, fun x q' hx => hx⟩
    unfold total
    omega
  · exact ⟨⟨rfl, hendless, 3, rfl, by omega⟩, fun x q' hx => hx⟩

theorem safe_relativeMove : (relativeMove a).Safe (monitor a) (fun _ _ => True) (.ready 0) := by
  refine ⟨trivial, fun opened _ => ?_⟩
  cases opened with
  | false => exact ⟨fun heq => absurd heq (by decide), fun _ _ => trivial⟩
  | true =>
      show Program.Safe (monitor a) ((converse a).bind fun finished =>
        if finished then ask (.print doneText) else pure ()) _ _
      refine Program.Safe.bind (safe_converse.mono fun finished q hq => ?_)
      cases finished with
      | false => trivial
      | true =>
          obtain ⟨k, rfl, hcomplete⟩ := hq rfl
          exact ⟨fun _ => hcomplete, fun _ _ => trivial⟩

theorem safe_printAll {texts : List Text} (h : ∀ text ∈ texts, text ≠ doneText) :
    (printAll texts).Safe (monitor a) (fun _ q => q = .ready k) (.ready k) := by
  induction texts with
  | nil => rfl
  | cons text rest ih =>
      have hother : text ≠ doneText := h text List.mem_cons_self
      refine ⟨fun heq => absurd heq hother, fun _ _ => ?_⟩
      show (printAll rest).Safe (monitor a) _
        (if text = doneText then Phase.finished else .ready k)
      rw [if_neg hother]
      exact ih fun text' hmem => h text' (List.mem_cons_of_mem _ hmem)

theorem append_ne_doneText {start rest : Text} (h : start.isPrefixOf doneText = false) :
    start ++ rest ≠ doneText := by
  intro heq
  have hinitial : start.isPrefixOf doneText = true := by
    rw [List.isPrefixOf_iff_prefix, ← heq]
    exact List.prefix_append start rest
  rw [h] at hinitial
  cases hinitial

/-- The last line is not among those that the user is shown first. -/
theorem ne_doneText_of_mem_summary : ∀ text ∈ summary a, text ≠ doneText := by
  unfold summary
  simp only [List.forall_mem_cons, List.not_mem_nil, false_imp_iff, implies_true, and_true]
  exact ⟨by decide, append_ne_doneText rfl, append_ne_doneText rfl, append_ne_doneText rfl,
    append_ne_doneText rfl, append_ne_doneText rfl, by decide, append_ne_doneText rfl,
    by decide, by decide, by decide, by decide⟩

theorem safe_main : (main a).Safe (monitor a) (fun _ _ => True) (.ready 0) := by
  refine Program.Safe.ite (fun _ => ?_) fun _ => ?_
  · exact ⟨fun heq => absurd heq (by decide), fun _ _ => trivial⟩
  · refine Program.Safe.bind ((safe_printAll ne_doneText_of_mem_summary).mono ?_)
    rintro _ q rfl
    refine ⟨trivial, fun answer _ => ?_⟩
    exact Program.Safe.ite (fun _ => safe_relativeMove) fun _ => trivial

/-! ## The example and the server together -/

section

variable {w₀ : World} {t t' : Telnet} {o : ScriptRequest} {x : ScriptAnswer o}

/-- Between two lines: a line is written, or something that does not concern the server. -/
theorem related_of_ready (h : Related a w₀ (.ready k) t)
    (hallowed : (monitor a).allows (.ready k) o) (hanswer : telnet.answers o t x t') :
    Related a w₀ ((monitor a).next (.ready k) o x) t' := by
  obtain ⟨hready, hwithin, hdone⟩ := h
  cases o with
  | write text =>
      obtain ⟨rfl, hmore⟩ := hallowed
      rcases hanswer with rfl | ⟨rfl, rfl⟩
      · have hpending : Pending a w₀ k { t with outbox := t.outbox ++ [line a k] } := by
          refine ⟨fun hhere => ?_, hready.waits, hready.performed⟩
          show t.outbox ++ [line a k] = _
          rw [hready.outbox hhere, List.nil_append]
        cases x with
        | true => exact ⟨Or.inl ⟨hpending, hready.inbox⟩, hmore, hdone⟩
        | false => exact ⟨⟨k, Or.inl hpending, hmore⟩, hdone⟩
      · exact ⟨⟨k, Or.inr ⟨hready.outbox, k, by omega, hready.performed⟩, hmore⟩, hdone⟩
  | print text =>
      obtain rfl : t' = { t with output := t.output ++ [text] } := hanswer
      by_cases htext : text = doneText
      · obtain ⟨hcounted, rfl, htime⟩ := hallowed htext
        show Related a w₀ (if text = doneText then .finished else .ready (total a)) _
        rw [if_pos htext]
        exact ⟨hready.outbox, hready.performed, hcounted, htime⟩
      · show Related a w₀ (if text = doneText then .finished else .ready k) _
        rw [if_neg htext]
        refine ⟨⟨hready.outbox, hready.inbox, hready.waits, hready.performed⟩, hwithin, ?_⟩
        simp [hdone, Ne.symm htext]
  | rawInput prompt =>
      obtain rfl : t' = t := hanswer
      exact ⟨hready, hwithin, hdone⟩
  | telnetOpen host port seconds =>
      obtain rfl : t' = t := hanswer
      exact ⟨hready, hwithin, hdone⟩
  | expect text seconds => exact hallowed.elim
  | sleep hundredths =>
      obtain rfl : t' = t := hanswer
      exact ⟨hready, hwithin, hdone⟩

/-- The wait for an answer: the pattern is in the line of success only. -/
theorem related_of_awaiting (h : Related a w₀ (.awaiting k) t)
    (hallowed : (monitor a).allows (.awaiting k) o) (hanswer : telnet.answers o t x t') :
    Related a w₀ ((monitor a).next (.awaiting k) o x) t' := by
  obtain ⟨hline, hmore, hdone⟩ := h
  cases o with
  | expect text seconds =>
      obtain rfl : text = pattern k := hallowed
      have hgaveUp : ∀ rest, t' = { t with inbox := rest } → Related a w₀ .gaveUp t' := by
        rintro rest rfl
        refine ⟨⟨k, ?_, hmore⟩, hdone⟩
        rcases hline with ⟨hpending, _⟩ | hanswered
        · exact Or.inl ⟨hpending.outbox, hpending.waits, hpending.performed⟩
        · exact Or.inr ⟨hanswered.dealtWith.outbox, hanswered.dealtWith.performed⟩
      cases x with
      | found =>
          obtain ⟨rest, hmatch, rfl⟩ := hanswer
          rcases hline with ⟨_, hsettled⟩ | hanswered
          · rw [afterMatch_settled hsettled k] at hmatch
            cases hmatch
          · exact ⟨hanswered.ready rest hmatch, hmore, hdone⟩
      | timedOut =>
          obtain ⟨rest, _, heq⟩ := hanswer
          exact hgaveUp rest heq
      | raised =>
          obtain ⟨rest, _, heq⟩ := hanswer
          exact hgaveUp rest heq
  | _ => exact hallowed.elim

/-- After that the example only complains. -/
theorem related_of_gaveUp (h : Related a w₀ .gaveUp t) (hallowed : (monitor a).allows .gaveUp o)
    (hanswer : telnet.answers o t x t') : Related a w₀ ((monitor a).next .gaveUp o x) t' := by
  obtain ⟨hline, hdone⟩ := h
  cases o with
  | print text =>
      have hother : text ≠ doneText := hallowed
      obtain rfl : t' = { t with output := t.output ++ [text] } := hanswer
      obtain ⟨k, hline, hmore⟩ := hline
      refine ⟨⟨k, ?_, hmore⟩, by simp [hdone, Ne.symm hother]⟩
      rcases hline with hpending | hdealt
      · exact Or.inl ⟨hpending.outbox, hpending.waits, hpending.performed⟩
      · exact Or.inr ⟨hdealt.outbox, hdealt.performed⟩
  | _ => exact hallowed.elim

theorem related_request {q : Phase} (h : Related a w₀ q t) (hallowed : (monitor a).allows q o)
    (hanswer : telnet.answers o t x t') : Related a w₀ ((monitor a).next q o x) t' := by
  cases q with
  | ready k => exact related_of_ready h hallowed hanswer
  | awaiting k => exact related_of_awaiting h hallowed hanswer
  | gaveUp => exact related_of_gaveUp h hallowed hanswer
  | finished => cases o <;> exact hallowed.elim

end

theorem related_takesLine (ha : a.Int32) {w₀ : World} {q : Phase} {t t' : Telnet}
    (h : Related a w₀ q t) (htakes : t.TakesLine t') : Related a w₀ q t' := by
  -- the server has nothing to read but a line that is under way
  have hread : ¬ (t.gone = false → t.outbox = []) := by
    obtain ⟨hhere, text, rest, _, _, houtbox, _⟩ := htakes
    intro hempty
    rw [hempty hhere] at houtbox
    cases houtbox
  cases q with
  | ready k => exact absurd h.1.outbox hread
  | awaiting k =>
      obtain ⟨hline, hmore, hdone⟩ := h
      rcases hline with ⟨hpending, hsettled⟩ | hanswered
      · obtain ⟨hanswered, houtput⟩ := hpending.answered ha hsettled htakes
        exact ⟨Or.inr hanswered, hmore, by rwa [houtput]⟩
      · exact absurd hanswered.dealtWith.outbox hread
  | gaveUp =>
      obtain ⟨⟨k, hline, hmore⟩, hdone⟩ := h
      rcases hline with hpending | hdealt
      · obtain ⟨hdealt, houtput⟩ := hpending.dealtWith ha htakes
        exact ⟨⟨k, Or.inr hdealt, hmore⟩, by rwa [houtput]⟩
      · exact absurd hdealt.outbox hread
  | finished => exact absurd h.1 hread

/-- The server may hang up at any time: what has been performed stays as it is. -/
theorem related_hangsUp {w₀ : World} {q : Phase} {t t' : Telnet} (h : Related a w₀ q t)
    (hhangs : t.HangsUp t') : Related a w₀ q t' := by
  cases q with
  | ready k => exact ⟨Ready.hangsUp hhangs h.1, h.2.1, by rw [hhangs.output]; exact h.2.2⟩
  | awaiting k =>
      obtain ⟨hline, hmore, hdone⟩ := h
      refine ⟨?_, hmore, by rwa [hhangs.output]⟩
      rcases hline with ⟨hpending, hsettled⟩ | hanswered
      · exact Or.inl ⟨Pending.hangsUp hhangs hpending, by rwa [hhangs.inbox]⟩
      · exact Or.inr (Answered.hangsUp hhangs hanswered)
  | gaveUp =>
      obtain ⟨⟨k, hline, hmore⟩, hdone⟩ := h
      refine ⟨⟨k, ?_, hmore⟩, by rwa [hhangs.output]⟩
      exact hline.imp (Pending.hangsUp hhangs) (DealtWith.hangsUp hhangs)
  | finished =>
      obtain ⟨_, hperformed, hrest⟩ := h
      exact ⟨hhangs.vacuous, hperformed.hangsUp hhangs, hrest⟩

theorem related_move (ha : a.Int32) {w₀ : World} {q : Phase} {t t' : Telnet}
    (h : Related a w₀ q t) (hmoves : telnet.moves t t') : Related a w₀ q t' := by
  rcases hmoves with htakes | hhangs
  · exact related_takesLine ha h htakes
  · exact related_hangsUp h hhangs

theorem couples (ha : a.Int32) (w₀ : World) : telnet.Couples (monitor a) (Related a w₀) where
  request h hallowed hanswer := ⟨trivial, related_request h hallowed hanswer⟩
  move h hmoves := related_move ha h hmoves
  body := safe_body

theorem exists_performed {w₀ : World} {t : Telnet}
    (h : Pending a w₀ k t ∨ DealtWith a w₀ k t) (hmore : Within a (k + 1)) :
    ∃ k', Performed a w₀ k' t.world ∧ Within a k' := by
  rcases h with hpending | hdealt
  · refine ⟨k, hpending.performed, fun hcounted => ?_⟩
    have := hmore hcounted
    omega
  · obtain ⟨k', hk', hperformed⟩ := hdealt.performed
    refine ⟨k', hperformed, fun hcounted => ?_⟩
    have := hmore hcounted
    omega

/-- Wherever the two have got to, the commands of the first lines have been performed; those
of all the lines, if the last line of the script has been printed. -/
theorem performed_of_reaches (ha : a.Int32) {cl : Int} {w : World} (hw : w.Unconnected)
    (herrno : w.errno ≠ erange) {p : Script Unit} {t : Telnet}
    (h : telnet.Reaches (start a cl w) (p, t)) :
    ∃ k, Performed a w k t.world ∧ Within a k ∧ (doneText ∈ t.output → Complete a k) := by
  have hstart : Related a w (.ready 0) (start a cl w).2 := by
    refine ⟨⟨fun _ => rfl, Or.inl rfl, fun _ => ⟨hw, herrno⟩, .refl w, by simp [commands]⟩,
      fun _ => ?_, by simp [start]⟩
    unfold total
    omega
  obtain ⟨q, _, hrelated⟩ := (couples ha w).reaches h safe_main hstart
  cases q with
  | ready k =>
      obtain ⟨hready, hwithin, hdone⟩ := hrelated
      exact ⟨k, hready.performed, hwithin, fun hmem => absurd hmem hdone⟩
  | awaiting k =>
      obtain ⟨hline, hmore, hdone⟩ := hrelated
      obtain ⟨k', hperformed, hwithin⟩ :=
        exists_performed (hline.imp And.left Answered.dealtWith) hmore
      exact ⟨k', hperformed, hwithin, fun hmem => absurd hmem hdone⟩
  | gaveUp =>
      obtain ⟨⟨k, hline, hmore⟩, hdone⟩ := hrelated
      obtain ⟨k', hperformed, hwithin⟩ := exists_performed hline hmore
      exact ⟨k', hperformed, hwithin, fun hmem => absurd hmem hdone⟩
  | finished =>
      obtain ⟨_, hperformed, hcounted, htime⟩ := hrelated
      exact ⟨total a, hperformed, fun _ => le_rfl, fun _ => ⟨hcounted, rfl, htime⟩⟩

end

end BackAndForth

end SmdControlServer
