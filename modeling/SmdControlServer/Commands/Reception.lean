import SmdControlServer.Commands.Footprint
import SmdControlServer.Drive.Sessions
import SmdControlServer.Text.Lines

/-!
# What is taken for a message

The loop dispatches what one `read` returns, whatever it is: nothing looks for the
end of a line, and nothing of a read is kept for the next turn.  So a stream of
lines is executed line by line exactly when the network delivers it line by line.
-/

namespace SmdControlServer

open CString Interaction

/-! ## The messages in the log -/

def Event.message? : Event → Option Text
  | .noted (.message input) => some input
  | _ => none

/-- The texts that were dispatched, in order. -/
def dispatched (w w' : World) : List Text :=
  (newEvents w w').filterMap Event.message?

/-- Nothing is dispatched and nothing is read from the client. -/
structure World.NoMessage (w w' : World) : Prop where
  clientReads : w'.clientReads = w.clientReads
  messages : Observed Event.message? w w' []

theorem World.NoMessage.refl (w : World) : w.NoMessage w :=
  ⟨rfl, Observed.refl w⟩

theorem World.NoMessage.trans {w₁ w₂ w₃ : World} (h : w₁.NoMessage w₂)
    (h' : w₂.NoMessage w₃) : w₁.NoMessage w₃ :=
  ⟨h'.clientReads.trans h.clientReads, h.messages.trans h'.messages⟩

theorem World.noMessage_of_log {w w' : World} (es : List Event)
    (hes : es.filterMap Event.message? = []) (hlog : w'.log = w.log ++ es)
    (hreads : w'.clientReads = w.clientReads) : w.NoMessage w' :=
  ⟨hreads, es, hlog, hes⟩

/-- Code that may do anything. -/
def Rights.all : Rights where
  sends _ := True
  writes _ := True
  assigns _ := True
  notes n := n.OfCommand
  setsErrno _ := True
  writes_of_sends _ _ _ _ := trivial

theorem Rights.ordinary_all : Rights.all.Ordinary where
  sends _ _ := trivial
  assigns _ _ := trivial
  notes _ hn := hn

/-- One request of a command. -/
theorem handle_noMessage {o : Request} (ho : Rights.all.policy.allows o) {w w' : World}
    {x : Answer o} (h : handle o w = some (x, w')) : w.NoMessage w' := by
  have hsame : ∀ w' : World, w'.log = w.log → w'.clientReads = w.clientReads →
      w.NoMessage w' := fun w' hlog hreads =>
    World.noMessage_of_log [] rfl (by rw [hlog, List.append_nil]) hreads
  -- reading the client and noting a message are not among these requests
  cases o with
  | deviceIp =>
      rw [handle_deviceIp] at h
      cases h
      exact hsame _ rfl rfl
  | pthreadCreate routine =>
      cases routine <;> cases h <;> exact World.noMessage_of_log [_] rfl rfl rfl
  | readClient cl => cases ho
  | readManualFile => cases ho
  | writeClient cl message =>
      cases h
      cases hwrite : w.clientWrites.head with
      | none => exact World.noMessage_of_log [.clientWritten cl message] rfl rfl rfl
      | some e => exact hsame _ rfl rfl
  | note n =>
      cases n with
      | message input => cases ho
      | _ => cases h; exact World.noMessage_of_log [_] rfl rfl rfl
  | abort fault => cases h
  | globals => cases h; exact hsame _ rfl rfl
  | assign a => cases h; exact hsame _ rfl rfl
  | errnoIsErange => cases h; exact hsame _ rfl rfl
  | setErrno e => cases h; exact hsame _ rfl rfl
  | perror => cases h; exact hsame _ rfl rfl
  | modbusErrno ctx => cases h; exact hsame _ rfl rfl
  | sleep n => cases h; exact hsame _ rfl rfl
  | uninitialised => cases h; exact hsame _ rfl rfl
  | cJsonParse text => cases h; exact hsame _ rfl rfl
  | _ => cases h; exact World.noMessage_of_log [_] rfl rfl rfl

theorem noMessage_of_runs {α : Type} {p : Server α} (hp : Within Rights.all p) {w w' : World}
    {a : α} (h : Runs server p w a w') : w.NoMessage w' :=
  Within.preorder Rights.ordinary_all.allowsStops (fun _ => trivial) World.NoMessage.refl
    (fun _ _ _ => World.NoMessage.trans) (fun _ ho _ _ _ hx => handle_noMessage ho hx) hp h

/-- Whatever a message does, it dispatches no other and reads no other. -/
theorem noMessage_parseSocketInput {w w' : World} {input : Text} {cl : Int}
    {r : SmdResponseCode} (h : Runs server (parseSocketInput input cl) w r w') :
    w.NoMessage w' := by
  have hconversions : ConversionsWithin Rights.all input := fun _ _ _ _ _ _ _ => trivial
  rcases runs_parseSocketInput_cases h with ⟨_, h⟩ | ⟨_, h⟩ | ⟨_, _, h⟩ | ⟨p, h, hp⟩
  · refine noMessage_of_runs ?_ h
    rcases parseScenario1_cases input cl with
      ⟨_, htokens, heq⟩ | ⟨_, htokens, heq⟩ | hordinary
    · rw [heq]
      exact (composed_handleRunAssembledDwellMove (hconversions 2 htokens)
        fun _ _ _ _ _ => trivial).within
    · rw [heq]
      exact (composed_handleRunAssembledBlendMove (hconversions 2 htokens)
        fun _ _ _ _ _ => trivial).within
    · exact hordinary _ Rights.ordinary_all hconversions
  · exact noMessage_of_runs
      (Rights.ordinary_all.plain.composed_parseScenario3 fun _ => trivial).within h
  · exact noMessage_of_runs (within_handleConnect Rights.ordinary_all.assigns trivial) h
  · exact noMessage_of_runs (hp _ Rights.ordinary_all) h

theorem message_dispatched {w w' : World} {input : Text} {cl : Int}
    (h : Runs server (parseSmdResponseToClientInput input cl) w () w') :
    w'.clientReads = w.clientReads ∧ Observed Event.message? w w' [input] := by
  obtain ⟨r, w₁, hparse, hanswer⟩ := runs_parseSmdResponseToClientInput_iff.mp h
  have hnoted : Observed Event.message? w (w.recordAll [.noted (.message input)]) [input] :=
    ⟨_, rfl, rfl⟩
  have hcommand := noMessage_parseSocketInput hparse
  have hwritten :=
    noMessage_of_runs (composed_answerClient trivial r).within hanswer
  exact ⟨hwritten.clientReads.trans hcommand.clientReads,
    hnoted.trans (hcommand.trans hwritten).messages⟩

/-! ## Reads and turns -/

/-- The next reads of the client's socket return these chunks. -/
def World.Receives (w : World) (chunks : List Chunk) : Prop :=
  ∃ rest, w.clientReads = chunks.map ClientRead.received ++ₛ rest

/-- One turn dispatches what its read returned, up to the first NUL. -/
theorem turn_dispatched {s s' : Int × World} {chunk : Chunk} {rest : Stream' ClientRead}
    (hreads : s.2.clientReads = Stream'.cons (.received chunk) rest)
    (hroom : chunk.bytes.length < bufSize)
    (h : Runs server (serverIteration s.1) s.2 s'.1 s'.2) :
    s'.1 = s.1 ∧ s'.2.clientReads = rest ∧
      Observed Event.message? s.2 s'.2 [ofBytes chunk.bytes] := by
  have hhead : s.2.clientReads.head = .received chunk := by rw [hreads]; rfl
  have hmessage : s.2.nextMessage = some (ofBytes chunk.bytes) := by
    unfold World.nextMessage messageText
    rw [hhead]
    simp only [if_pos hroom]
  have hafter : s.2.afterMessageRead s.1 =
      ({ s.2 with clientReads := rest } : World).recordAll [.clientRead s.1] := by
    unfold World.afterMessageRead World.afterClientRead
    rw [hhead]
    simp only [if_pos hroom, hreads]
    rfl
  rw [runs_serverIteration_iff, hmessage] at h
  obtain ⟨hclient, h⟩ := h
  obtain ⟨hkept, hdispatched⟩ := message_dispatched h
  rw [hafter] at hkept hdispatched
  have hread : Observed Event.message? s.2
      (({ s.2 with clientReads := rest } : World).recordAll [.clientRead s.1]) [] :=
    ⟨_, rfl, rfl⟩
  exact ⟨hclient, hkept, hread.trans hdispatched⟩

theorem turns_dispatched {chunks : List Chunk} {s s' : Int × World}
    (hreads : s.2.Receives chunks) (hroom : ∀ chunk ∈ chunks, chunk.bytes.length < bufSize)
    (h : ServerTurns chunks.length s s') :
    s'.1 = s.1 ∧
      Observed Event.message? s.2 s'.2 (chunks.map fun chunk => ofBytes chunk.bytes) := by
  induction chunks generalizing s with
  | nil =>
      rw [show s' = s from h]
      exact ⟨rfl, Observed.refl _⟩
  | cons chunk chunks ih =>
      obtain ⟨rest, hrest⟩ := hreads
      obtain ⟨s₁, hturn, hturns⟩ := h
      obtain ⟨hclient, hkept, hfirst⟩ :=
        turn_dispatched hrest (hroom chunk List.mem_cons_self) hturn
      obtain ⟨hclient', hothers⟩ := ih ⟨rest, hkept⟩
        (fun c hc => hroom c (List.mem_cons_of_mem _ hc)) hturns
      exact ⟨hclient'.trans hclient, hfirst.trans hothers⟩

/-! ## Lines -/

/-- Every read returns one message, and a stream of lines is executed line by line
if and only if every read returns one line, without NUL. -/
theorem dispatched_lines_iff {chunks : List Chunk} {s s' : Int × World}
    (hreads : s.2.Receives chunks) (hroom : ∀ chunk ∈ chunks, chunk.bytes.length < bufSize)
    (h : ServerTurns chunks.length s s') :
    dispatched s.2 s'.2 = (chunks.map fun chunk => ofBytes chunk.bytes) ∧
      ∀ lines : List Text, (∀ line ∈ lines, Lines.IsLine '\n' line) →
        (chunks.map Chunk.bytes).flatten = lines.flatten →
        (dispatched s.2 s'.2 = lines ↔
          ∀ chunk ∈ chunks, Lines.IsLine '\n' chunk.bytes ∧ '\x00' ∉ chunk.bytes) := by
  have hdispatched : dispatched s.2 s'.2 = chunks.map fun chunk => ofBytes chunk.bytes :=
    (turns_dispatched hreads hroom h).2.newEvents_eq
  refine ⟨hdispatched, fun lines hlines hstream => ?_⟩
  have htexts : (∀ chunk ∈ chunks, '\x00' ∉ chunk.bytes) →
      dispatched s.2 s'.2 = chunks.map Chunk.bytes := by
    intro hnul
    rw [hdispatched]
    exact List.map_congr_left fun chunk hchunk => ofBytes_eq_self (hnul chunk hchunk)
  constructor
  · intro heq
    -- a NUL of the stream would have to stand in one of the texts
    have hnul : ∀ chunk ∈ chunks, '\x00' ∉ chunk.bytes := by
      intro chunk hchunk hmem
      have hstreamMem : '\x00' ∈ (chunks.map Chunk.bytes).flatten :=
        List.mem_flatten.mpr ⟨_, List.mem_map_of_mem hchunk, hmem⟩
      rw [hstream, ← heq, hdispatched] at hstreamMem
      obtain ⟨text, htext, hmem⟩ := List.mem_flatten.mp hstreamMem
      obtain ⟨c, _, rfl⟩ := List.mem_map.mp htext
      exact nul_not_mem_ofBytes _ hmem
    intro chunk hchunk
    refine ⟨hlines _ ?_, hnul chunk hchunk⟩
    rw [← heq, htexts hnul]
    exact List.mem_map_of_mem hchunk
  · intro hchunks
    -- without NULs the pieces of the stream are compared with its lines
    rw [htexts fun chunk hchunk => (hchunks chunk hchunk).2,
      Lines.pieces_eq_lines_iff hlines hstream]
    intro piece hpiece
    obtain ⟨chunk, hchunk, rfl⟩ := List.mem_map.mp hpiece
    exact (hchunks chunk hchunk).1

/-! ## A stop that is lost -/

/-- A client that sends these chunks and then goes. -/
def World.receiving (chunks : List Chunk) : World :=
  { World.ready with clientReads := readsOf chunks }

def moveLine : Chunk := .ofLine "relativeMove,1000,250,250,0,5000".toList (by decide)
def holdLine : Chunk := .ofLine "holdMove".toList (by decide)

/-- Both lines in one chunk. -/
def moveAndHold : Chunk where
  bytes := moveLine.bytes ++ holdLine.bytes
  nonempty := by decide
  bounded := by decide

def Event.sentCommand? : Event → Option Text
  | .threadStarted (.sendModbusCommand cmd) _ => some cmd.commandName
  | _ => none

/-- The commands that are sent to the drive. -/
def sentCommands (w w' : World) : List Text :=
  (newEvents w w').filterMap Event.sentCommand?

theorem isLine_moveLine : Lines.IsLine '\n' moveLine.bytes :=
  ⟨"relativeMove,1000,250,250,0,5000".toList, by decide, rfl⟩

theorem isLine_holdLine : Lines.IsLine '\n' holdLine.bytes :=
  ⟨"holdMove".toList, by decide, rfl⟩

/-- One line a read. -/
theorem dispatched_two_lines :
    ∃ s, ServerTurns 2 (5, World.receiving [moveLine, holdLine]) s ∧
      dispatched (World.receiving [moveLine, holdLine]) s.2 =
        [moveLine.bytes, holdLine.bytes] := by
  have heval : (eval server 0 ((serverIteration 5).bind serverIteration)
      (World.receiving [moveLine, holdLine])).map (fun _ => ()) = some () := by decide +kernel
  obtain ⟨cl, w, hrun, _⟩ := exists_runs_of_eval heval
  obtain ⟨cl₁, w₁, hfirst, hsecond⟩ := runs_bind_iff.mp hrun
  have hturns : ServerTurns 2 (5, World.receiving [moveLine, holdLine]) (cl, w) :=
    ⟨(cl₁, w₁), hfirst, (cl, w), hsecond, rfl⟩
  have hlines : ∀ line ∈ [moveLine.bytes, holdLine.bytes], Lines.IsLine '\n' line := by
    intro line hline
    rcases List.mem_pair.mp hline with rfl | rfl
    · exact isLine_moveLine
    · exact isLine_holdLine
  have hchunks : ∀ chunk ∈ [moveLine, holdLine],
      Lines.IsLine '\n' chunk.bytes ∧ '\x00' ∉ chunk.bytes := by
    intro chunk hchunk
    rcases List.mem_pair.mp hchunk with rfl | rfl
    · exact ⟨isLine_moveLine, by decide⟩
    · exact ⟨isLine_holdLine, by decide⟩
  have hiff := (@dispatched_lines_iff [moveLine, holdLine]
    (5, World.receiving [moveLine, holdLine]) (cl, w) ⟨_, rfl⟩ (by decide) hturns).2
    [moveLine.bytes, holdLine.bytes] hlines rfl
  exact ⟨(cl, w), hturns, hiff.mpr hchunks⟩

/-- The same two lines in two reads and in one: the move is sent both times, the
hold only the first time, and then the client is gone. -/
theorem merged_hold_lost :
    moveAndHold.bytes = moveLine.bytes ++ holdLine.bytes ∧
    (∃ s, ServerTurns 2 (5, World.receiving [moveLine, holdLine]) s ∧
      sentCommands (World.receiving [moveLine, holdLine]) s.2 =
        ["relative_move".toList, "hold_move".toList]) ∧
    (∃ s, ServerTurns 1 (5, World.receiving [moveAndHold]) s ∧
      s.2.clientReads = Stream'.const .endOfFile ∧
      dispatched (World.receiving [moveAndHold]) s.2 = [moveAndHold.bytes] ∧
      sentCommands (World.receiving [moveAndHold]) s.2 = ["relative_move".toList]) := by
  have htwo : (eval server 0 ((serverIteration 5).bind serverIteration)
      (World.receiving [moveLine, holdLine])).map (fun r =>
        sentCommands (World.receiving [moveLine, holdLine]) r.2) =
      some ["relative_move".toList, "hold_move".toList] := by decide +kernel
  have hone : (eval server 0 (serverIteration 5) (World.receiving [moveAndHold])).map (fun r =>
        (dispatched (World.receiving [moveAndHold]) r.2,
          sentCommands (World.receiving [moveAndHold]) r.2)) =
      some ([moveAndHold.bytes], ["relative_move".toList]) := by decide +kernel
  obtain ⟨cl, w, hrun, hsent⟩ := exists_runs_of_eval htwo
  obtain ⟨cl₁, w₁, hfirst, hsecond⟩ := runs_bind_iff.mp hrun
  obtain ⟨cl', w', hrun', hmerged⟩ := exists_runs_of_eval hone
  obtain ⟨hdispatched, hsent'⟩ := Prod.mk.inj hmerged
  have hgone : w'.clientReads = Stream'.const .endOfFile :=
    (@turn_dispatched (5, World.receiving [moveAndHold]) (cl', w') moveAndHold _ rfl
      (by decide) hrun').2.1
  exact ⟨rfl, ⟨(cl, w), ⟨(cl₁, w₁), hfirst, (cl, w), hsecond, rfl⟩, hsent⟩,
    ⟨(cl', w'), ⟨(cl', w'), hrun', rfl⟩, hgone, hdispatched, hsent'⟩⟩

end SmdControlServer
