import SmdControlServer.Commands.Footprint
import SmdControlServer.Upload.Handshake

/-!
# Running the profile that is on the drive

A run should be sent only for the profile that was last accepted on the present
connection, and only as the type it has.  `profileAfter` follows that profile from
turn to turn.  The code goes by `STATUS_TYPE_ASSEMBLED_MOVE` instead, which is set
in the middle of an upload and never cleared.
-/

namespace SmdControlServer

open CString Interaction

/-! ## The profile on the drive -/

namespace World

/-- The type of a profile that the drive takes from this world on, if it takes it. -/
def acceptedType (w : World) (jsonString : Text) (cl : Int) : Option SmdAssembledMoveType :=
  match w.upload jsonString with
  | none => none
  | some (moveType, segments) =>
      if ∀ p ∈ uploadWorlds segments.length cl 0 segments (w.atUpload moveType),
          p.1.SegmentPasses p.2 then
        some moveType
      else
        none

/-- The world in which the text of a message is parsed. -/
def atDispatch (w : World) (cl : Int) (input : Text) : World :=
  (w.afterMessageRead cl).recordAll [.noted (.message input)]

instance : DecidablePred World.ExpectsProfile := fun w =>
  inferInstanceAs (Decidable (w.globals.smdConnected = 1 ∧
    w.globals.statusWaitingForAssembledMove = 1))

/-- The text that the next turn takes for a profile, if it does. -/
def nextProfile (w : World) : Option Text :=
  if w.ExpectsProfile then w.nextMessage else none

end World

/-- The type of the profile that was last accepted on the present connection.  An
upload that fails leaves none, and so does a connection that ends or begins. -/
def profileAfter (profile : Option SmdAssembledMoveType) (s s' : Int × World) :
    Option SmdAssembledMoveType :=
  match s.2.nextProfile with
  | some input => (s.2.atDispatch s.1 input).acceptedType input s.1
  | none =>
      if s.2.globals.smdConnected = 1 ∧ s'.2.globals.smdConnected = 1 then profile else none

/-- A turn of the loop, with the profile on the drive. -/
def ProfiledStep (P : Int × World → Prop)
    (s s' : Option SmdAssembledMoveType × Int × World) : Prop :=
  ServerStep P s.2 s'.2 ∧ s'.1 = profileAfter s.1 s.2 s'.2

/-- Any number of turns, with the profile on the drive. -/
def ProfiledRun (P : Int × World → Prop) :
    Option SmdAssembledMoveType × Int × World →
      Option SmdAssembledMoveType × Int × World → Prop :=
  Relation.ReflTransGen (ProfiledStep P)

/-! ## What an upload leaves -/

section

variable {w w' : World} {input : Text} {cl : Int} {r : SmdResponseCode}

theorem runs_parseSocketInput_profile (h : w.ExpectsProfile) :
    Runs server (parseSocketInput input cl) w r w' ↔
      Runs server (parseScenario3 input cl) w r w' := by
  obtain ⟨hconnected, hwaiting⟩ := h
  unfold parseSocketInput dispatchIn
  simp only [Program.bind_eq_bind, Program.perform_bind, Program.done_bind, runs_globals]
  rw [if_neg (by omega), if_neg (by omega), if_neg (by omega), if_pos ⟨hconnected, hwaiting⟩]

/-- The upload of a profile, up to its result. -/
theorem acceptedType_iff {w₁ : World} {r₁ : SmdResponseCode}
    (h : Runs server (smdParseAndUploadAssembledMove input cl) w r₁ w₁) :
    r₁ = .commandSuccess ↔ w.acceptedType input cl ≠ none := by
  unfold World.acceptedType
  rcases runs_smdParseAndUpload_cases input cl w with
    ⟨hnone, hrefused⟩ | ⟨moveType, segments, hsome, hruns⟩
  · obtain ⟨rfl, _⟩ := hrefused r₁ w₁ h
    rw [hnone]
    simp
  · rw [hsome]
    have hloop := (hruns r₁ w₁).mp h
    by_cases hpasses : ∀ p ∈ uploadWorlds segments.length cl 0 segments (w.atUpload moveType),
        p.1.SegmentPasses p.2
    · obtain ⟨w₂, hsuccess⟩ := runs_uploadSegments_success_iff.mpr hpasses
      simp only [if_pos hpasses]
      simpa using (hloop.unique hsuccess).1
    · simp only [if_neg hpasses]
      constructor
      · rintro rfl
        exact absurd (runs_uploadSegments_success_iff.mp ⟨w₁, hloop⟩) hpasses
      · intro hnone
        exact absurd rfl hnone

/-- `acceptedType` is what the server accepts. -/
theorem assembledMoveAccepted_iff (hprofile : w.ExpectsProfile)
    (h : Runs server (parseSocketInput input cl) w r w') :
    r = .assembledMoveAccepted ↔ w.acceptedType input cl ≠ none := by
  rw [runs_parseSocketInput_profile hprofile] at h
  unfold parseScenario3 at h
  rw [Program.bind_eq_bind] at h
  obtain ⟨r₁, w₁, hupload, hrest⟩ := runs_bind_iff.mp h
  rw [← acceptedType_iff hupload]
  by_cases hsuccess : r₁ = .commandSuccess
  · simp only [if_pos hsuccess, Program.bind_eq_bind, Program.perform_bind, Program.done_bind,
      runs_assign] at hrest
    exact iff_of_true (runs_done_iff.mp hrest).1 hsuccess
  · simp only [if_neg hsuccess, Program.bind_eq_bind, Program.perform_bind, Program.done_bind,
      runs_assign] at hrest
    obtain ⟨_, _, _, hdone⟩ := runs_bind_iff.mp hrest
    rw [(runs_done_iff.mp hdone).1]
    exact iff_of_false (by simp) hsuccess

end

/-! ## Code that keeps the type of the profile -/

def Event.runMove? : Event → Option RegisterProgram
  | .threadStarted (.sendModbusCommand cmd) _ => if cmd.RunsMove then some cmd else none
  | _ => none

/-- Code that does not change the type of the assembled move.  It connects only if
`connects` and sends a run only if `runs`. -/
def Rights.keepingType (connects runs : Prop) : Rights where
  sends cmd := cmd.RunsMove → runs
  writes _ := True
  assigns a := a.Ordinary ∨ (connects ∧ a = .smdConnected 1)
  notes n := n.OfCommand
  setsErrno _ := True
  writes_of_sends _ _ _ _ := trivial

theorem Rights.ordinary_keepingType (connects runs : Prop) :
    (Rights.keepingType connects runs).Ordinary where
  sends _ hmove := fun h => absurd h hmove
  assigns _ := Or.inl
  notes _ hn := hn

/-- The type of the assembled move stays.  Unless `connects`, a drive that is not
connected stays so, and unless `runs`, no run is sent. -/
structure World.KeepsType (connects runs : Prop) (w w' : World) : Prop where
  moveType : w'.globals.statusTypeAssembledMove = w.globals.statusTypeAssembledMove
  closed : ¬ connects → w.globals.smdConnected ≠ 1 → w'.globals.smdConnected ≠ 1
  unsent : ¬ runs → Observed Event.runMove? w w' []

section

variable {connects runs : Prop} {w w₁ w₂ w₃ : World}

theorem World.KeepsType.refl (w : World) : w.KeepsType connects runs w :=
  ⟨rfl, fun _ h => h, fun _ => Observed.refl w⟩

theorem World.KeepsType.trans (h : w₁.KeepsType connects runs w₂)
    (h' : w₂.KeepsType connects runs w₃) : w₁.KeepsType connects runs w₃ where
  moveType := h'.moveType.trans h.moveType
  closed := fun hc hw => h'.closed hc (h.closed hc hw)
  unsent := fun hr => (h.unsent hr).trans (h'.unsent hr)

theorem World.keepsType_of_log (es : List Event)
    (hes : es.filterMap Event.runMove? = []) (hlog : w₂.log = w₁.log ++ es)
    (hglobals : w₂.globals = w₁.globals) : w₁.KeepsType connects runs w₂ where
  moveType := by rw [hglobals]
  closed := by
    rw [hglobals]
    exact fun _ h => h
  unsent := fun _ => ⟨es, hlog, hes⟩

/-- One assignment. -/
theorem World.keepsType_assign {a : Assignment}
    (ha : (Rights.keepingType connects runs).assigns a) :
    w.KeepsType connects runs (w.assign a) where
  moveType := by
    rcases ha with ha | ⟨_, rfl⟩
    · cases a <;> first | rfl | exact ha.elim
    · rfl
  closed := by
    intro hconnects hw
    rcases ha with ha | ⟨h, _⟩
    · cases a <;> first | exact hw | exact ha
    · exact absurd h hconnects
  unsent := fun _ => ⟨[], by simp, rfl⟩

theorem handle_keepsType {o : Request}
    (ho : (Rights.keepingType connects runs).policy.allows o) {x : Answer o}
    (h : handle o w = some (x, w₁)) : w.KeepsType connects runs w₁ := by
  have hsame : ∀ w₁ : World, w₁.log = w.log → w₁.globals = w.globals →
      w.KeepsType connects runs w₁ := fun w₁ hlog hglobals =>
    World.keepsType_of_log [] rfl (by rw [hlog, List.append_nil]) hglobals
  cases o with
  | assign a =>
      cases h
      exact World.keepsType_assign ho
  | deviceIp =>
      rw [handle_deviceIp] at h
      cases h
      exact hsame _ rfl rfl
  | pthreadCreate routine =>
      cases routine with
      | sendModbusCommand cmd =>
          cases h
          refine ⟨rfl, fun _ hw => hw, fun hruns => ⟨[_], rfl, ?_⟩⟩
          -- a move is run only where the rights say so
          have hmove : ¬ cmd.RunsMove := fun hmove => hruns (ho hmove)
          simp [Event.runMove?, hmove]
      | readModbusRegisters readType => cases h; exact World.keepsType_of_log [_] rfl rfl rfl
      | manualModeController => cases h; exact World.keepsType_of_log [_] rfl rfl rfl
  | readClient cl => cases ho
  | readManualFile => cases ho
  | writeClient cl message =>
      cases h
      cases hwrite : w.clientWrites.head with
      | none => exact World.keepsType_of_log [.clientWritten cl message] rfl rfl rfl
      | some e => exact hsame _ rfl rfl
  | abort fault => cases h
  | globals => cases h; exact hsame _ rfl rfl
  | errnoIsErange => cases h; exact hsame _ rfl rfl
  | setErrno e => cases h; exact hsame _ rfl rfl
  | perror => cases h; exact hsame _ rfl rfl
  | modbusErrno ctx => cases h; exact hsame _ rfl rfl
  | sleep n => cases h; exact hsame _ rfl rfl
  | uninitialised => cases h; exact hsame _ rfl rfl
  | cJsonParse text => cases h; exact hsame _ rfl rfl
  | _ => cases h; exact World.keepsType_of_log [_] rfl rfl rfl

theorem keepsType_of_runs {α : Type} {p : Server α}
    (hp : Within (Rights.keepingType connects runs) p) {a : α} (h : Runs server p w a w₁) :
    w.KeepsType connects runs w₁ :=
  Within.preorder (Rights.ordinary_keepingType connects runs).allowsStops (fun _ => trivial)
    World.KeepsType.refl (fun _ _ _ => World.KeepsType.trans)
    (fun _ ho _ _ _ hx => handle_keepsType ho hx) hp h

end

/-! ## One turn -/

section

variable {w w' : World} {input : Text} {cl : Int} {r : SmdResponseCode}

/-- No run is sent unless its type is the one that is remembered. -/
theorem runs_smdRunAssembledMove_of_ne {direction dwellTime : Int}
    {moveType : SmdAssembledMoveType} (hne : w.globals.statusTypeAssembledMove ≠ moveType)
    (h : Runs server (smdRunAssembledMove direction dwellTime moveType) w r w') : w' = w := by
  unfold smdRunAssembledMove at h
  simp only [Program.bind_eq_bind, Program.perform_bind, Program.done_bind, runs_globals] at h
  rw [if_neg (fun hblend => hne (hblend.2.trans hblend.1.symm)),
    if_neg (fun hdwell => hne (hdwell.2.trans hdwell.1.symm))] at h
  exact (runs_done_iff.mp h).2

/-- The guard and the conversion of a message that runs a profile, whose handler
does nothing in a world with the type of this one. -/
theorem keepsType_withTokens {f : Int → Server SmdResponseCode}
    (h : Runs server (withTokens input 2 fun tokens => do
      let converted ← convertStringToLongInt (tokens.token 1)
      f converted) w r w')
    (hf : ∀ n (v : World),
      v.globals.statusTypeAssembledMove = w.globals.statusTypeAssembledMove →
      Runs server (f n) v r w' → w' = v) : w.KeepsType False False w' := by
  unfold withTokens at h
  split at h
  · rw [(runs_done_iff.mp h).2]
    exact World.KeepsType.refl w
  · change Runs server (if (tokenizeClientInput input 2).result ≠ 0 then _ else _) w r w' at h
    split at h
    · rw [(runs_done_iff.mp h).2]
      exact World.KeepsType.refl w
    · change Runs server ((convertStringToLongInt ((tokenizeClientInput input 2).token 1)).bind f)
        w r w' at h
      obtain ⟨n, v, hconversion, hrest⟩ := runs_bind_iff.mp h
      have hkeeps : w.KeepsType False False v :=
        keepsType_of_runs (within_convertStringToLongInt fun _ => trivial) hconversion
      rw [hf n v hkeeps.moveType hrest]
      exact hkeeps

theorem keepsType_handleRunAssembledDwellMove
    (hne : w.globals.statusTypeAssembledMove ≠ .dwell)
    (h : Runs server (handleRunAssembledDwellMove input) w r w') :
    w.KeepsType False False w' := by
  refine keepsType_withTokens h fun n v hv hrun => ?_
  split at hrun
  · exact (runs_done_iff.mp hrun).2
  · exact runs_smdRunAssembledMove_of_ne (hv ▸ hne) hrun

theorem keepsType_handleRunAssembledBlendMove
    (hne : w.globals.statusTypeAssembledMove ≠ .blend)
    (h : Runs server (handleRunAssembledBlendMove input) w r w') :
    w.KeepsType False False w' := by
  refine keepsType_withTokens h fun n v hv hrun => ?_
  change Runs server (if toInt16 n < 0 ∨ toInt16 n > 1 then _ else _) v r w' at hrun
  split at hrun
  · exact (runs_done_iff.mp hrun).2
  · exact runs_smdRunAssembledMove_of_ne (hv ▸ hne) hrun

end

/-- The message asks for a run of a profile of this type. -/
def RunsType (input : Text) : SmdAssembledMoveType → Prop
  | .dwell => startsWith input "runAssembledDwellMove".toList = true
  | .blend => startsWith input "runAssembledBlendMove".toList = true
  | .none => False

section

variable {w w' : World} {input : Text} {cl : Int} {r : SmdResponseCode}

theorem World.KeepsType.mono {connects runs : Prop} (h : w.KeepsType False False w') :
    w.KeepsType connects runs w' :=
  ⟨h.moveType, fun _ => h.closed not_false, fun _ => h.unsent not_false⟩

/-- An upload sends no run.  It leaves the type of an accepted profile, and where it
is refused at once the type that was there. -/
theorem runs_parseScenario3_type (h : Runs server (parseScenario3 input cl) w r w') :
    Observed Event.runMove? w w' [] ∧
      (∀ moveType, w.acceptedType input cl = some moveType →
        w'.globals.statusTypeAssembledMove = moveType) ∧
      (w.upload input = none →
        w'.globals.statusTypeAssembledMove = w.globals.statusTypeAssembledMove) := by
  have hordinary := Rights.ordinary_keepingType False False
  unfold parseScenario3 at h
  rw [Program.bind_eq_bind] at h
  obtain ⟨r₁, w₁, hupload, hrest⟩ := runs_bind_iff.mp h
  -- what follows the upload leaves the type as it is
  have hafter : w₁.KeepsType False False w' := by
    refine keepsType_of_runs (within_ite ?_ ?_) hrest
    · exact within_bind (within_assign (hordinary.assigns _ trivial)) fun _ => trivial
    · refine within_bind (within_assign (hordinary.assigns _ trivial)) fun _ => ?_
      exact within_bind (composed_smdResetErrors hordinary.plain.commanding).within
        fun _ => trivial
  unfold World.acceptedType
  rcases runs_smdParseAndUpload_cases input cl w with
    ⟨hnone, hrefused⟩ | ⟨moveType, segments, hsome, hruns⟩
  · have hw₁ : w.KeepsType False False w₁ := by
      rcases (hrefused r₁ w₁ hupload).2 with rfl | rfl
      · exact World.KeepsType.refl _
      · exact World.keepsType_of_log [] rfl (by simp) rfl
    have hkeeps := hw₁.trans hafter
    refine ⟨hkeeps.unsent not_false, fun moveType hmove => ?_, fun _ => hkeeps.moveType⟩
    rw [hnone] at hmove
    cases hmove
  · have hloop : (w.atUpload moveType).KeepsType False False w₁ :=
      keepsType_of_runs (composed_uploadSegments
        (fun s _ => hordinary.plain.commanding.sends_moveSegment s)
        (hordinary.plain.commanding.sends _ (by decide)) _ _ _).within
        ((hruns r₁ w₁).mp hupload)
    have hkeeps := hloop.trans hafter
    have hentered : Observed Event.runMove? w (w.atUpload moveType) [] :=
      ⟨[], by simp [World.atUpload], rfl⟩
    refine ⟨hentered.trans (hkeeps.unsent not_false), fun moveType' hmove => ?_, fun hnone => ?_⟩
    · rw [hsome] at hmove
      have hsame : moveType = moveType' := by
        by_cases hpasses : ∀ p ∈ uploadWorlds segments.length cl 0 segments
            (w.atUpload moveType), p.1.SegmentPasses p.2
        · simpa only [if_pos hpasses, Option.some.injEq] using hmove
        · simp only [if_neg hpasses] at hmove
          cases hmove
      rw [hkeeps.moveType, ← hsame]
      rfl
    · rw [hsome] at hnone
      cases hnone

/-- What a message does to the type that is remembered. -/
theorem runs_parseSocketInput_type (h : Runs server (parseSocketInput input cl) w r w') :
    (w.ExpectsProfile ∧ Runs server (parseScenario3 input cl) w r w') ∨
      (w.globals.smdConnected = 0 ∧ startsWith input "connect".toList = true ∧
        w.KeepsType True False w') ∨
      (w.InScenario1 ∧ RunsType input w.globals.statusTypeAssembledMove ∧
        w.KeepsType False True w') ∨
      w.KeepsType False False w' := by
  have hconversions : ∀ connects runs,
      ConversionsWithin (Rights.keepingType connects runs) input :=
    fun _ _ _ _ _ _ _ _ _ => trivial
  rcases runs_parseSocketInput_cases h with
    ⟨hscenario, h⟩ | hprofile | ⟨hclosed, hconnect, h⟩ | ⟨p, h, hp⟩
  · right; right
    rcases parseScenario1_cases input cl with
      ⟨hname, htokens, hdwell⟩ | ⟨hname, htokens, hblend⟩ | hordinary
    · rw [hdwell] at h
      -- the handler refuses a type other than its own before it sends
      by_cases htype : w.globals.statusTypeAssembledMove = .dwell
      · refine Or.inl ⟨hscenario, by rw [htype]; exact hname, keepsType_of_runs ?_ h⟩
        exact (composed_handleRunAssembledDwellMove (hconversions _ _ 2 htokens)
          fun _ _ _ _ _ _ => trivial).within
      · exact Or.inr (keepsType_handleRunAssembledDwellMove htype h)
    · rw [hblend] at h
      by_cases htype : w.globals.statusTypeAssembledMove = .blend
      · refine Or.inl ⟨hscenario, by rw [htype]; exact hname, keepsType_of_runs ?_ h⟩
        exact (composed_handleRunAssembledBlendMove (hconversions _ _ 2 htokens)
          fun _ _ _ _ _ _ => trivial).within
      · exact Or.inr (keepsType_handleRunAssembledBlendMove htype h)
    · exact Or.inr (keepsType_of_runs
        (hordinary _ (Rights.ordinary_keepingType _ _) (hconversions _ _)) h)
  · exact Or.inl hprofile
  · refine Or.inr (Or.inl ⟨hclosed, hconnect, keepsType_of_runs ?_ h⟩)
    exact within_handleConnect (Rights.ordinary_keepingType _ _).assigns (Or.inr ⟨trivial, rfl⟩)
  · exact Or.inr (Or.inr (Or.inr (keepsType_of_runs (hp _ (Rights.ordinary_keepingType _ _)) h)))

end

theorem globals_atDispatch (w : World) (cl : Int) (input : Text) :
    (w.atDispatch cl input).globals = w.globals :=
  w.globals_afterMessageRead cl

theorem keepsType_afterClientRead (w : World) (cl : Int) :
    w.KeepsType False False (w.afterClientRead cl) := by
  refine World.keepsType_of_log [.clientRead cl] rfl ?_ ?_
  · unfold World.afterClientRead
    cases w.clientReads.head <;> rfl
  · unfold World.afterClientRead
    cases w.clientReads.head <;> rfl

theorem keepsType_atDispatch (w : World) (cl : Int) (input : Text) :
    w.KeepsType False False (w.atDispatch cl input) := by
  have hread : w.KeepsType False False (w.afterMessageRead cl) := by
    have hclient := keepsType_afterClientRead w cl
    unfold World.afterMessageRead
    split
    · split
      · exact hclient
      · exact hclient.trans (World.keepsType_of_log [] rfl (by simp) rfl)
    · exact hclient
  exact hread.trans (World.keepsType_of_log [.noted (.message input)] rfl rfl rfl)

/-- A turn that takes a message for a profile: the type is that of the profile, if it
is uploaded, and stays as it was, if the document is refused. -/
theorem turn_of_profile {s s' : Int × World} {input : Text} (hprofile : s.2.ExpectsProfile)
    (hmessage : s.2.nextMessage = some input)
    (h : Runs server (serverIteration s.1) s.2 s'.1 s'.2) :
    Observed Event.runMove? s.2 s'.2 [] ∧
      (∀ moveType, (s.2.atDispatch s.1 input).acceptedType input s.1 = some moveType →
        s'.2.globals.statusTypeAssembledMove = moveType) ∧
      ((s.2.atDispatch s.1 input).upload input = none →
        s'.2.globals.statusTypeAssembledMove = s.2.globals.statusTypeAssembledMove) := by
  rw [runs_serverIteration_iff, hmessage] at h
  obtain ⟨r, w₁, hparse, hanswer⟩ := runs_parseSmdResponseToClientInput_iff.mp h.2
  have hread := keepsType_atDispatch s.2 s.1 input
  have hanswered : w₁.KeepsType False False s'.2 :=
    keepsType_of_runs (composed_answerClient
      ((Rights.ordinary_keepingType False False).assigns _ trivial) r).within hanswer
  have hthere : (s.2.atDispatch s.1 input).ExpectsProfile := by
    unfold World.ExpectsProfile
    rw [globals_atDispatch]
    exact hprofile
  obtain ⟨hunsent, haccepted, hrefused⟩ :=
    runs_parseScenario3_type ((runs_parseSocketInput_profile hthere).mp hparse)
  refine ⟨((hread.unsent not_false).trans hunsent).trans (hanswered.unsent not_false),
    fun moveType hmove => ?_, fun hnone => ?_⟩
  · exact hanswered.moveType.trans (haccepted moveType hmove)
  · exact hanswered.moveType.trans ((hrefused hnone).trans hread.moveType)

/-- All that a turn can do to the type that is remembered. -/
theorem turn_cases {s s' : Int × World} (h : Runs server (serverIteration s.1) s.2 s'.1 s'.2) :
    (∃ input, s.2.nextProfile = some input ∧ Observed Event.runMove? s.2 s'.2 [] ∧
        (∀ moveType, (s.2.atDispatch s.1 input).acceptedType input s.1 = some moveType →
          s'.2.globals.statusTypeAssembledMove = moveType) ∧
        ((s.2.atDispatch s.1 input).upload input = none →
          s'.2.globals.statusTypeAssembledMove = s.2.globals.statusTypeAssembledMove)) ∨
      (s.2.nextProfile = none ∧ ∃ input, s.2.nextMessage = some input ∧
        ((s.2.globals.smdConnected = 0 ∧ startsWith input "connect".toList = true ∧
            s.2.KeepsType True False s'.2) ∨
          (s.2.globals.smdConnected = 1 ∧ RunsType input s.2.globals.statusTypeAssembledMove ∧
            s.2.KeepsType False True s'.2))) ∨
      (s.2.nextProfile = none ∧ s.2.KeepsType False False s'.2) := by
  have hordinary := Rights.ordinary_keepingType False False
  -- no message: the client is closed, and the next one is waited for
  cases hmessage : s.2.nextMessage with
  | none =>
      rw [runs_serverIteration_iff, hmessage] at h
      refine Or.inr (Or.inr ⟨?_, ?_⟩)
      · unfold World.nextProfile
        split
        · exact hmessage
        · rfl
      · exact (keepsType_afterClientRead s.2 s.1).trans
          (keepsType_of_runs
            (within_serveNextClient hordinary.assigns (hordinary.notes _ trivial)) h)
  | some input =>
      by_cases hprofile : s.2.ExpectsProfile
      · refine Or.inl ⟨input, ?_, turn_of_profile hprofile hmessage h⟩
        unfold World.nextProfile
        rw [if_pos hprofile, hmessage]
      · right
        have hnone : s.2.nextProfile = none := by
          unfold World.nextProfile
          rw [if_neg hprofile]
        rw [runs_serverIteration_iff, hmessage] at h
        obtain ⟨r, w₁, hparse, hanswer⟩ := runs_parseSmdResponseToClientInput_iff.mp h.2
        have hread := keepsType_atDispatch s.2 s.1 input
        have hglobals := globals_atDispatch s.2 s.1 input
        have hanswered : w₁.KeepsType False False s'.2 :=
          keepsType_of_runs (composed_answerClient (hordinary.assigns _ trivial) r).within hanswer
        change Runs server (parseSocketInput input s.1) (s.2.atDispatch s.1 input) r w₁ at hparse
        rcases runs_parseSocketInput_type hparse with
          ⟨hthere, _⟩ | ⟨hclosed, hconnect, hkeeps⟩ | ⟨hscenario, hruns, hkeeps⟩ | hkeeps
        · unfold World.ExpectsProfile at hthere
          rw [hglobals] at hthere
          exact absurd hthere hprofile
        · rw [hglobals] at hclosed
          exact Or.inl ⟨hnone, input, rfl,
            Or.inl ⟨hclosed, hconnect, (hread.mono.trans hkeeps).trans hanswered.mono⟩⟩
        · rw [hglobals] at hruns
          have hconnected : s.2.globals.smdConnected = 1 := hglobals ▸ hscenario.1
          exact Or.inl ⟨hnone, input, rfl,
            Or.inr ⟨hconnected, hruns, (hread.mono.trans hkeeps).trans hanswered.mono⟩⟩
        · exact Or.inr ⟨hnone, (hread.trans hkeeps).trans hanswered⟩

/-! ## Runs of the server -/

/-- While the drive is connected, a type that is remembered is that of the profile on
the drive. -/
def TypeIsLoaded (profile : Option SmdAssembledMoveType) (w : World) : Prop :=
  w.globals.smdConnected = 1 → w.globals.statusTypeAssembledMove ≠ .none →
    profile = some w.globals.statusTypeAssembledMove

/-- No type is left over: not by a profile that the drive does not take, and not for
a connection that begins. -/
def NoTypeLeftOver (s : Int × World) : Prop :=
  (∀ input ∈ s.2.nextProfile, (s.2.atDispatch s.1 input).acceptedType input s.1 = none →
    (s.2.atDispatch s.1 input).upload input = none ∧
      s.2.globals.statusTypeAssembledMove = .none) ∧
  ∀ input ∈ s.2.nextMessage, s.2.globals.smdConnected = 0 →
    startsWith input "connect".toList = true → s.2.globals.statusTypeAssembledMove = .none

instance : DecidablePred NoTypeLeftOver := fun _ => inferInstanceAs (Decidable (_ ∧ _))

/-- One turn keeps track of the profile. -/
theorem typeIsLoaded_turn {profile : Option SmdAssembledMoveType} {s s' : Int × World}
    (hloaded : TypeIsLoaded profile s.2) (hturn : NoTypeLeftOver s)
    (h : Runs server (serverIteration s.1) s.2 s'.1 s'.2) :
    TypeIsLoaded (profileAfter profile s s') s'.2 := by
  intro hconnected htype
  -- a turn without a profile keeps the type, and with the connection what it stands for
  have hstays : s.2.nextProfile = none →
      s'.2.globals.statusTypeAssembledMove = s.2.globals.statusTypeAssembledMove →
      s.2.globals.smdConnected = 1 →
      profileAfter profile s s' = some s'.2.globals.statusTypeAssembledMove := by
    intro hnone hsame hbefore
    unfold profileAfter
    rw [hnone]
    simp only [if_pos (And.intro hbefore hconnected)]
    rw [hsame] at htype ⊢
    exact hloaded hbefore htype
  rcases turn_cases h with
    ⟨input, hprofile, _, haccepted, hrefused⟩ |
    ⟨hnone, input, hmessage, ⟨hclosed, hconnect, hkeeps⟩ | ⟨hbefore, _, hkeeps⟩⟩ |
    ⟨hnone, hkeeps⟩
  · unfold profileAfter
    rw [hprofile]
    cases hmove : (s.2.atDispatch s.1 input).acceptedType input s.1 with
    | none =>
        -- a refused profile leaves the type of before, which is none here
        obtain ⟨hupload, hbefore⟩ := hturn.1 input hprofile hmove
        exact absurd ((hrefused hupload).trans hbefore) htype
    | some moveType =>
        rw [haccepted moveType hmove]
        exact hmove
  · exact absurd (hkeeps.moveType.trans (hturn.2 input hmessage hclosed hconnect)) htype
  · exact hstays hnone hkeeps.moveType hbefore
  · have hbefore : s.2.globals.smdConnected = 1 := by
      by_contra hclosed
      exact hkeeps.closed not_false hclosed hconnected
    exact hstays hnone hkeeps.moveType hbefore

/-- Any number of turns. -/
theorem typeIsLoaded_run {s s' : Option SmdAssembledMoveType × Int × World}
    (hloaded : TypeIsLoaded s.1 s.2.2) (h : ProfiledRun NoTypeLeftOver s s') :
    TypeIsLoaded s'.1 s'.2.2 := by
  induction h with
  | refl => exact hloaded
  | tail _ hlast ih =>
      obtain ⟨⟨hturn, hstep⟩, hprofile⟩ := hlast
      rw [hprofile]
      exact typeIsLoaded_turn ih hturn hstep

/-- In a run that leaves no type over, a turn sends a run only if its message asks
for a profile of the type that was last accepted on the present connection. -/
theorem run_only_after_upload {cl : Int} {w₀ : World}
    (hinitial : w₀.globals = Globals.initial)
    {profile : Option SmdAssembledMoveType} {s s' : Int × World}
    (hrun : ProfiledRun NoTypeLeftOver (none, cl, w₀) (profile, s))
    (hturn : Runs server (serverIteration s.1) s.2 s'.1 s'.2)
    {cmd : RegisterProgram} {created : Bool}
    (hsent : .threadStarted (.sendModbusCommand cmd) created ∈ newEvents s.2 s'.2)
    (hmove : cmd.RunsMove) :
    ∃ input moveType, s.2.nextMessage = some input ∧ RunsType input moveType ∧
      profile = some moveType := by
  have hloaded : TypeIsLoaded profile s.2 := by
    refine typeIsLoaded_run (s := (none, cl, w₀)) ?_ hrun
    intro hconnected
    rw [hinitial] at hconnected
    cases hconnected
  have hseen : cmd ∈ (newEvents s.2 s'.2).filterMap Event.runMove? :=
    List.mem_filterMap.mpr ⟨_, hsent, by simp [Event.runMove?, hmove]⟩
  have hunseen : ¬ Observed Event.runMove? s.2 s'.2 [] := by
    intro hnone
    rw [hnone.newEvents_eq] at hseen
    cases hseen
  -- of the four kinds of turns only one may send the program of a run
  rcases turn_cases hturn with
    ⟨_, _, hnone, _⟩ |
    ⟨_, input, hmessage, ⟨_, _, hkeeps⟩ | ⟨hconnected, hruns, _⟩⟩ | ⟨_, hkeeps⟩
  · exact absurd hnone hunseen
  · exact absurd (hkeeps.unsent not_false) hunseen
  · refine ⟨input, _, hmessage, hruns, hloaded hconnected ?_⟩
    intro htype
    rw [htype] at hruns
    exact hruns
  · exact absurd (hkeeps.unsent not_false) hunseen

/-! ## Computed runs -/

/-- Turns that are computed, as long as the condition holds. -/
def profiledTurns (P : Int × World → Prop) [DecidablePred P] :
    Nat → Option SmdAssembledMoveType × Int × World →
      Option (Option SmdAssembledMoveType × Int × World)
  | 0, s => some s
  | n + 1, s =>
      if P s.2 then
        (eval server 0 (serverIteration s.2.1) s.2.2).bind fun s' =>
          profiledTurns P n (profileAfter s.1 s.2 s', s')
      else
        none

theorem profiledRun_of_turns {P : Int × World → Prop} [DecidablePred P] {n : Nat}
    {s s' : Option SmdAssembledMoveType × Int × World} (h : profiledTurns P n s = some s') :
    ProfiledRun P s s' := by
  induction n generalizing s with
  | zero =>
      cases h
      exact .refl
  | succ n ih =>
      unfold profiledTurns at h
      split at h
      · obtain ⟨s₁, hturn, hrest⟩ := Option.bind_eq_some_iff.mp h
        exact .head ⟨⟨‹P s.2›, 0, hturn⟩, rfl⟩ (ih hrest)
      · cases h

/-- The turn after `n` computed turns, seen through one event. -/
def turnLogs (P : Int × World → Prop) [DecidablePred P] (n : Nat)
    (s : Option SmdAssembledMoveType × Int × World) (e : Event) :
    Option (Option SmdAssembledMoveType × Bool) :=
  (profiledTurns P n s).bind fun s' =>
    (eval server 0 (serverIteration s'.2.1) s'.2.2).map fun r =>
      (s'.1, decide (e ∈ newEvents s'.2.2 r.2))

theorem exists_turn_of_turnLogs {P : Int × World → Prop} [DecidablePred P] {n : Nat}
    {s : Option SmdAssembledMoveType × Int × World} {e : Event}
    {profile : Option SmdAssembledMoveType} (h : turnLogs P n s e = some (profile, true)) :
    ∃ s₁ s₂ : Int × World, ProfiledRun P s (profile, s₁) ∧
      Runs server (serverIteration s₁.1) s₁.2 s₂.1 s₂.2 ∧ e ∈ newEvents s₁.2 s₂.2 := by
  obtain ⟨⟨profile', s₁⟩, hturns, hlast⟩ := Option.bind_eq_some_iff.mp h
  obtain ⟨s₂, hturn, heq⟩ := Option.map_eq_some_iff.mp hlast
  obtain ⟨rfl, hlogged⟩ := Prod.mk.inj heq
  exact ⟨s₁, s₂, profiledRun_of_turns hturns, ⟨0, hturn⟩, of_decide_eq_true hlogged⟩

/-! ## Three dialogues -/

/-- The server after its start, with a client that sends these chunks, one of which is
a profile with one segment and the type `dwell`. -/
def World.started (chunks : List Chunk) (drive : Stream' Session) : World :=
  { World.facing Globals.initial drive with
    clientReads := readsOf chunks
    cJsonParse := fun _ => some (.withItems none none 0
      [.segment "segment1".toList ⟨1000, 500, 250, 250, 0⟩, .moveType "dwell".toList]) }

def programLine : Chunk := .ofLine "programAssembledMove".toList (by decide)
def profileLine : Chunk := .ofLine "{}".toList (by decide)
def runLine : Chunk := .ofLine "runAssembledDwellMove,100".toList (by decide)

/-- The session of the read after `programAssembledMove` shows that the drive is in
its programming mode, the later ones show these words. -/
def programmingDrive (later : Nat → BitVec 16) : Stream' Session :=
  fun k => Session.answering fun _ => if k = 2 then 0x8300 else later k

/-- The run of `runLine`. -/
def runSent : Event :=
  .threadStarted (.sendModbusCommand (runAssembledMoveProgram 33280 100)) true

/-- A profile is taken and then run. -/
theorem run_after_upload :
    ∃ (profile : Option SmdAssembledMoveType) (s s' : Int × World),
      ProfiledRun NoTypeLeftOver
          (none, 5, World.started [connectLine, programLine, profileLine, runLine]
            (programmingDrive fun k => if k = 6 then 0x8608 else 0x8408)) (profile, s) ∧
        runSent ∈ newEvents s.2 s'.2 ∧
        ∃ input moveType, s.2.nextMessage = some input ∧ RunsType input moveType ∧
          profile = some moveType := by
  have hturns : turnLogs NoTypeLeftOver 3
      (none, 5, World.started [connectLine, programLine, profileLine, runLine]
        (programmingDrive fun k => if k = 6 then 0x8608 else 0x8408)) runSent =
      some (some .dwell, true) := by decide +kernel
  obtain ⟨s, s', hrun, hturn, hsent⟩ := exists_turn_of_turnLogs hturns
  exact ⟨_, s, s', hrun, hsent, run_only_after_upload rfl hrun hturn hsent (by decide)⟩

/-- A run is sent after an upload that failed, and for a connection on which nothing
was uploaded. -/
theorem run_without_upload :
    (∃ s s' : Int × World,
      ProfiledRun (fun _ => True)
          (none, 5, World.started [connectLine, programLine, profileLine, runLine]
            (programmingDrive fun _ => 0x8608)) (none, s) ∧
        Runs server (serverIteration s.1) s.2 s'.1 s'.2 ∧ runSent ∈ newEvents s.2 s'.2) ∧
    ∃ s s' : Int × World,
      ProfiledRun (fun _ => True)
          (none, 5, World.started [connectLine, programLine, profileLine, disconnectLine,
            connectLine, runLine]
            (programmingDrive fun k => if k = 6 then 0x8608 else 0x8408)) (none, s) ∧
        Runs server (serverIteration s.1) s.2 s'.1 s'.2 ∧ runSent ∈ newEvents s.2 s'.2 := by
  have hfailed : turnLogs (fun _ => True) 3
      (none, 5, World.started [connectLine, programLine, profileLine, runLine]
        (programmingDrive fun _ => 0x8608)) runSent = some (none, true) := by decide +kernel
  have hreconnected : turnLogs (fun _ => True) 5
      (none, 5, World.started [connectLine, programLine, profileLine, disconnectLine,
        connectLine, runLine] (programmingDrive fun k => if k = 6 then 0x8608 else 0x8408))
      runSent = some (none, true) := by decide +kernel
  exact ⟨exists_turn_of_turnLogs hfailed, exists_turn_of_turnLogs hreconnected⟩

end SmdControlServer
