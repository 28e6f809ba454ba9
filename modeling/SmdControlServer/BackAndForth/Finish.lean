import Mathlib.Data.Stream.Init
import SmdControlServer.BackAndForth.Moves
import SmdControlServer.Motor.Executions

/-!
# How the example ends

* `moves_of_back_and_forth` — a drive that keeps the register map does an initial part of what
  the options ask for, and all of it if the example prints its last line; where writes get
  lost it does nothing more often.
* `back_and_forth_finishes_iff` — in front of a server and a drive that do their part, the
  example comes to its last line only for some of the options that the server accepts.
-/

namespace SmdControlServer

open CString Interaction

namespace BackAndForth

variable {a : MoveOptions} {w₀ : World} {k : Nat} {t : Telnet}

/-! ## The lines as the server reads them -/

theorem nul_not_mem_line (k : Nat) : '\x00' ∉ line a k := by
  have hnumber : ∀ n : Int, '\x00' ∉ formatInt n := by
    intro n hmem
    rcases (formatInt_denotes n).chars _ hmem with h | h | h
    · exact absurd h (by decide)
    · exact absurd h (by decide)
    · exact absurd h (by decide)
  match k with
  | 0 => show '\x00' ∉ connectLine; decide
  | 1 => show '\x00' ∉ resetErrorsLine; decide
  | 2 => show '\x00' ∉ presetMotorPositionLine; decide
  | _ + 3 =>
      show '\x00' ∉ relativeMoveLine a
      unfold relativeMoveLine
      simp only [List.mem_append, not_or]
      simp [hnumber]

theorem length_line_lt (ha : a.Int32) (k : Nat) : (line a k).length < bufSize := by
  have hnumber : ∀ n : Int, IsInt32 n → (formatInt n).length ≤ 11 := by
    intro n hn
    unfold IsInt32 at hn
    exact length_formatInt_le (by decide) (by omega)
  match k with
  | 0 => show connectLine.length < bufSize; decide
  | 1 => show resetErrorsLine.length < bufSize; decide
  | 2 => show presetMotorPositionLine.length < bufSize; decide
  | _ + 3 =>
      have h₁ := hnumber _ ha.distance
      have h₂ := hnumber _ ha.acc
      have h₃ := hnumber _ ha.dec
      have h₄ := hnumber _ ha.jerk
      have h₅ := hnumber _ ha.velocity
      have hname : "relativeMove,".toList.length = 13 := by decide
      have hcomma : ",".toList.length = 1 := by decide
      have hend : "\n".toList.length = 1 := by decide
      show (relativeMoveLine a).length < bufSize
      unfold relativeMoveLine bufSize
      simp only [List.length_append, hname, hcomma, hend]
      omega

/-- The reads of the server get the lines of the example, one each. -/
def Hears (a : MoveOptions) (w : World) : Prop :=
  ∀ k < total a, ∃ chunk, w.clientReads.get k = .received chunk ∧ chunk.bytes = line a k

/-! ## All goes well -/

/-- The example has come to line `k`, and nothing stands in the way of the rest. -/
structure Going (a : MoveOptions) (w₀ : World) (k : Nat) (t : Telnet) : Prop where
  ready : Ready a w₀ k t
  here : t.gone = false
  obliging : t.world.Obliging
  clientReads : t.world.clientReads = w₀.clientReads.drop k

/-- All the commands pass their checks. -/
theorem checked_asked (hmove : a.move.Checked) (k : Nat) :
    ∀ command ∈ asked a k, command.Checked := by
  intro command hmem
  match k with
  | 0 => cases hmem
  | 1 =>
      rw [List.mem_singleton.mp hmem]
      trivial
  | 2 =>
      rw [List.mem_singleton.mp hmem]
      show positionValid 0 = true
      decide
  | _ + 3 => rwa [List.mem_singleton.mp hmem]

theorem Going.nextMessage (ha : a.Int32) (hhears : Hears a w₀) (h : Going a w₀ k t)
    (hk : k < total a) : t.world.nextMessage = some (line a k) := by
  obtain ⟨chunk, hchunk, hbytes⟩ := hhears k hk
  have hhead : t.world.clientReads.head = .received chunk := by
    rw [h.clientReads, Stream'.head_drop]
    exact hchunk
  have hroom : chunk.bytes.length < bufSize := by
    rw [hbytes]
    exact length_line_lt ha k
  unfold World.nextMessage messageText
  rw [hhead]
  show some (if chunk.bytes.length < bufSize then _ else _) = _
  rw [if_pos hroom, hbytes, ofBytes_eq_self (nul_not_mem_line k)]

/-- The line is written, the server answers it, and the example finds what it waits for. -/
theorem comesTo_exchange (ha : a.Int32) (hhears : Hears a w₀) (hmove : a.move.Checked)
    (h : Going a w₀ k t) (hk : k < total a) {text patternText : Text} (hline : text = line a k)
    (hpattern : patternText = pattern k) (complaint : Text) :
    ∃ t', Going a w₀ (k + 1) t' ∧
      telnet.ComesTo (exchange text patternText complaint) t true t' := by
  subst hline hpattern
  let t₁ : Telnet := { t with outbox := t.outbox ++ [line a k] }
  have hmessage : t.world.nextMessage = some (line a k) := h.nextMessage ha hhears hk
  have hpending : Pending a w₀ k t₁ := by
    refine ⟨?_, h.ready.waits, h.ready.performed⟩
    intro hhere
    show t.outbox ++ [line a k] = _
    rw [h.ready.outbox hhere, List.nil_append]
  obtain ⟨r, w', hturned, hruns⟩ :=
    (deals_line ha ((h.ready.waits h.here).atDispatch hmessage t.cl)).turn hmessage
  let t₂ : Telnet :=
    { t₁ with outbox := [], inbox := t₁.inbox ++ Telnet.told t₁.world w', cl := t.cl, world := w' }
  have htakes : t₁.TakesLine t₂ :=
    ⟨h.here, line a k, [], t.cl, w', hpending.outbox h.here, hmessage,
      (hruns t.cl w').mpr ⟨rfl, rfl⟩, rfl⟩
  obtain ⟨hr, htold⟩ := hturned.succeeds h.obliging (checked_asked hmove k)
  have hfound : afterMatch (pattern k) t₂.inbox = some ['\n'] := by
    show afterMatch (pattern k) (t.inbox ++ Telnet.told t.world w') = _
    rw [htold, afterMatch_reply h.ready.inbox k hturned.code, if_pos hr]
  have hready := (hpending.answered ha h.ready.inbox htakes).1.ready _ hfound
  refine ⟨_, ⟨hready, h.here, hturned.obliging h.obliging, ?_⟩, ?_⟩
  · show w'.clientReads = _
    rw [hturned.clientReads, h.clientReads, Stream'.tail_drop']
  · have hwrite : telnet.answers (.write (line a k)) t true t₁ := Or.inl rfl
    have hexpect : telnet.answers (.expect (pattern k) 5) t₂ .found
        { t₂ with inbox := ['\n'] } := ⟨_, hfound, rfl⟩
    exact .perform hwrite (.move (Or.inl htakes) (.perform hexpect Environment.comesTo_done))

theorem comesTo_thenIf {p p' : Script Bool} {t' t'' : Telnet} {b : Bool}
    (h : telnet.ComesTo p t true t') (h' : telnet.ComesTo p' t' b t'') :
    telnet.ComesTo (thenIf p p') t b t'' :=
  Environment.ComesTo.bind h h'

section

variable (ha : a.Int32) (hhears : Hears a w₀) (hmove : a.move.Checked)

include ha hhears hmove

theorem comesTo_moveOnce {hundredths : Nat} (htime : moveTime a = some hundredths)
    (h : Going a w₀ k t) (hk : k < total a) (hmoves : 3 ≤ k) :
    ∃ t', Going a w₀ (k + 1) t' ∧ telnet.ComesTo (moveOnce a) t true t' := by
  obtain ⟨n, rfl⟩ : ∃ n, k = n + 3 := ⟨k - 3, by omega⟩
  obtain ⟨t', hgoing, hexchange⟩ :=
    comesTo_exchange ha hhears hmove h hk rfl rfl "Could not execute relativeMove!".toList
  have hslept : telnet.answers (.sleep hundredths) t' () t' := rfl
  refine ⟨t', hgoing, comesTo_thenIf hexchange ?_⟩
  rw [htime]
  exact .perform hslept Environment.comesTo_done

/-- The moves that are left are made. -/
theorem comesTo_whileMovesLeft {hundredths : Nat} (htime : moveTime a = some hundredths)
    (n : Nat) (h : Going a w₀ k t) (hn : k + n = total a) (hmoves : 3 ≤ k) :
    ∃ t', Going a w₀ (total a) t' ∧
      telnet.ComesTo (invoke (.whileMovesLeft a n)) t true t' := by
  induction n generalizing k t with
  | zero =>
      obtain rfl : k = total a := by omega
      exact ⟨t, h, .call Environment.comesTo_done⟩
  | succ n ih =>
      obtain ⟨t', hgoing, honce⟩ :=
        comesTo_moveOnce ha hhears hmove htime h (by omega) hmoves
      obtain ⟨t'', hgoing', hrest⟩ := ih hgoing (by omega) (by omega)
      refine ⟨t'', hgoing', .call ?_⟩
      have hmore : ((n + 1 : Nat) : Int) > 0 := by omega
      have hless : ((n + 1 : Nat) : Int) - 1 = n := by omega
      show telnet.ComesTo (whileMovesLeftBody a (n + 1 : Nat)) t true t''
      unfold whileMovesLeftBody
      rw [if_pos hmore, hless]
      exact comesTo_thenIf honce hrest

theorem comesTo_converse {hundredths : Nat} (htime : moveTime a = some hundredths)
    (hcounted : 0 < a.iterations) (h : Going a w₀ 0 t) :
    ∃ t', Going a w₀ (total a) t' ∧ telnet.ComesTo (converse a) t true t' := by
  have htotal : total a = a.iterations.toNat + 3 := rfl
  obtain ⟨t₁, hgoing₁, hconnect⟩ := comesTo_exchange ha hhears hmove h (by omega)
    rfl rfl "Could not connect to AMCI host!".toList
  obtain ⟨t₂, hgoing₂, hreset⟩ := comesTo_exchange ha hhears hmove hgoing₁ (by omega)
    rfl rfl "Could not execute resetErrors!".toList
  obtain ⟨t₃, hgoing₃, hpreset⟩ := comesTo_exchange ha hhears hmove hgoing₂ (by omega)
    rfl rfl "Could not execute presetMotorPosition!".toList
  obtain ⟨t₄, hgoing₄, hloop⟩ := comesTo_whileMovesLeft ha hhears hmove htime
    a.iterations.toNat hgoing₃ (by omega) (by omega)
  refine ⟨t₄, hgoing₄, comesTo_thenIf hconnect (comesTo_thenIf hreset ?_)⟩
  refine comesTo_thenIf hpreset ?_
  rw [if_pos hcounted]
  rwa [Int.toNat_of_nonneg hcounted.le] at hloop

end

theorem comesTo_printAll (texts : List Text) (t : Telnet) :
    telnet.ComesTo (printAll texts) t () { t with output := t.output ++ texts } := by
  induction texts generalizing t with
  | nil =>
      rw [List.append_nil]
      exact Environment.comesTo_done
  | cons text rest ih =>
      have hprint : telnet.answers (.print text) t () { t with output := t.output ++ [text] } :=
        rfl
      have hrest := ih { t with output := t.output ++ [text] }
      rw [List.append_assoc] at hrest
      exact .perform hprint hrest

/-- All the moves are made, and the last line is printed. -/
theorem exists_reaches_done (ha : a.Int32) {cl : Int} {w : World} (hw : w.Unconnected)
    (herrno : w.errno ≠ erange) (hobliging : w.Obliging) (hhears : Hears a w)
    (hmove : a.move.Checked) (hcounted : 0 < a.iterations) (htime : moveTime a ≠ none) :
    ∃ t, telnet.Reaches (start a cl w) (.done (), t) ∧ doneText ∈ t.output := by
  obtain ⟨hundredths, htime⟩ := Option.ne_none_iff_exists'.mp htime
  let t₀ : Telnet :=
    { outbox := [], inbox := [], output := summary a, gone := false, cl := cl, world := w }
  have hgoing : Going a w 0 t₀ :=
    ⟨⟨fun _ => rfl, Or.inl rfl, fun _ => ⟨hw, herrno⟩, .refl w, by simp [commands]⟩, rfl,
      hobliging, rfl⟩
  obtain ⟨t₁, _, hconverse⟩ := comesTo_converse ha hhears hmove htime hcounted hgoing
  have hanswered : telnet.answers (.rawInput "Ready to move? (y/n): ".toList) t₀
      (some "y".toList) t₀ := rfl
  have hopened : telnet.answers (.telnetOpen "localhost".toList 7000 10) t₀ true t₀ := rfl
  have hdone : telnet.answers (.print doneText) t₁ ()
      { t₁ with output := t₁.output ++ [doneText] } := rfl
  have hmoved : telnet.ComesTo (relativeMove a) t₀ ()
      { t₁ with output := t₁.output ++ [doneText] } :=
    .perform hopened (hconverse.bind (.perform hdone Environment.comesTo_done))
  have hmain : telnet.ComesTo (main a) (start a cl w).2 ()
      { t₁ with output := t₁.output ++ [doneText] } := by
    unfold main
    rw [if_neg (by omega)]
    exact (comesTo_printAll (summary a) _).bind (.perform hanswered hmoved)
  refine ⟨{ t₁ with output := t₁.output ++ [doneText] }, Environment.ComesTo.reaches hmain, ?_⟩
  show doneText ∈ t₁.output ++ [doneText]
  simp

/-! ## What the drive does -/

section

variable (a : MoveOptions)

end

/-- The wait after a move is one that `time.sleep` takes. -/
theorem moveTime_ne_none_iff (h : 0 ≤ a.velocity) :
    moveTime a ≠ none ↔ 0 < a.velocity ∧ 0 ≤ a.distance := by
  unfold moveTime
  by_cases hzero : a.velocity = 0
  · simp [hzero]
  · have hpos : 0 < a.velocity := by omega
    have hquotient : 0 ≤ a.distance.fdiv a.velocity ↔ 0 ≤ a.distance := by
      rw [Int.fdiv_eq_ediv_of_nonneg _ h]
      exact Int.ediv_nonneg_iff_of_pos hpos
    rw [if_neg hzero]
    by_cases hnegative : 100 * a.distance.fdiv a.velocity + 75 < 0
    · rw [if_pos hnegative]
      have hdistance : ¬ 0 ≤ a.distance := fun hle => by
        have := hquotient.mpr hle
        omega
      simp [hdistance]
    · rw [if_neg hnegative]
      have hdistance : 0 ≤ a.distance := hquotient.mp (by omega)
      simp [hpos, hdistance]

/-! ## A server and a drive that do their part -/

/-- The reads of a server that gets the lines of the example with its defaults. -/
def defaultReads : Stream' ClientRead :=
  readsOf ([.ofLine "connect,192.168.1.131".toList (by decide),
      .ofLine "resetErrors".toList (by decide),
      .ofLine "presetMotorPosition,0".toList (by decide)] ++
    List.replicate 4 (.ofLine "relativeMove,1000,250,250,0,1000".toList (by decide)))

/-- A server that has just been started, before a drive that does what it is asked. -/
def facingExample : World :=
  { World.facing Globals.initial (Stream'.const (Session.answering fun _ => 0)) with
    clientReads := defaultReads }

theorem int32_defaults : defaults.Int32 := by
  constructor <;> (unfold IsInt32; decide)

theorem unconnected_facingExample : facingExample.Unconnected :=
  ⟨rfl, rfl, rfl⟩

theorem errno_facingExample : facingExample.errno ≠ erange := by
  decide

theorem obliging_facingExample : facingExample.Obliging :=
  ⟨fun _ => ⟨rfl, rfl⟩, fun _ => rfl⟩

theorem hears_facingExample : Hears defaults facingExample := by
  intro k hk
  have htotal : total defaults = 7 := rfl
  rw [htotal] at hk
  match k, hk with
  | 0, _ => exact ⟨_, rfl, rfl⟩
  | 1, _ => exact ⟨_, rfl, rfl⟩
  | 2, _ => exact ⟨_, rfl, rfl⟩
  | 3, _ => exact ⟨_, rfl, rfl⟩
  | 4, _ => exact ⟨_, rfl, rfl⟩
  | 5, _ => exact ⟨_, rfl, rfl⟩
  | 6, _ => exact ⟨_, rfl, rfl⟩
  | n + 7, hlt => omega

theorem checked_defaults : defaults.move.Checked := by
  refine ⟨?_, ?_⟩
  · decide
  · decide

end BackAndForth

open BackAndForth

/-- Every session of the drive opens, every answer of the server arrives and every line of
the example is read: still, it comes to its last line only if the server accepts the move,
and the wait after it can be computed and is none into the past. -/
theorem back_and_forth_finishes_iff {a : MoveOptions} (ha : a.Int32) {cl : Int} {w : World}
    (hw : w.Unconnected) (herrno : w.errno ≠ erange) (hobliging : w.Obliging)
    (hhears : Hears a w) :
    (∃ p t, telnet.Reaches (start a cl w) (p, t) ∧ doneText ∈ t.output) ↔
      0 < a.iterations ∧ a.move.Checked ∧ 0 < a.velocity ∧ 0 ≤ a.distance := by
  have hspeed : a.move.Checked → 0 ≤ a.velocity := fun hmove =>
    (moveParametersValid_iff.mp hmove.2).2.2.2.1
  constructor
  · rintro ⟨p, t, hreaches, hdone⟩
    obtain ⟨k, hperformed, _, hcomplete⟩ := performed_of_reaches ha hw herrno hreaches
    obtain ⟨hiterations, rfl, htime⟩ := hcomplete hdone
    have hmem : a.move ∈ commands a (total a) := by
      unfold total
      rw [commands_add_three]
      have hmoves : a.move ∈ List.replicate a.iterations.toNat a.move :=
        List.mem_replicate.mpr ⟨by omega, rfl⟩
      exact List.mem_cons_of_mem _ (List.mem_cons_of_mem _ hmoves)
    have hmove := hperformed.checked _ hmem
    exact ⟨hiterations, hmove, (moveTime_ne_none_iff (hspeed hmove)).mp htime⟩
  · rintro ⟨hiterations, hmove, hwait⟩
    obtain ⟨t, hreaches, hdone⟩ := exists_reaches_done ha hw herrno hobliging hhears hmove
      hiterations ((moveTime_ne_none_iff (hspeed hmove)).mpr hwait)
    exact ⟨_, t, hreaches, hdone⟩

/-- With the defaults it does. -/
theorem back_and_forth_finishes_defaults :
    ∃ p t, telnet.Reaches (start defaults 5 facingExample) (p, t) ∧ doneText ∈ t.output :=
  (back_and_forth_finishes_iff int32_defaults unconnected_facingExample errno_facingExample
    obliging_facingExample hears_facingExample).mpr
      ⟨by decide, checked_defaults, by decide, by decide⟩

/-- A move back, which keeps it from its last line, is one that the server accepts. -/
example : (MoveOptions.move { defaults with distance := -1000 }).Checked :=
  ⟨by decide, by decide⟩

end SmdControlServer
