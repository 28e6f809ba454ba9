import SmdControlServer.Server.Main
import SmdControlServer.Server.Rules

/-!
# The order of the options

`-v` and `-d` start the server in the middle of the loop over the options.  What stands before
them has been set by then, and what stands behind them is never looked at, so the order of the
options decides which port the server listens on.
-/

namespace SmdControlServer

open CString Interaction

/-! ## The call that does not return -/

/-- No path through the program ends without a call of the server's loop. -/
def Endless {α : Type} : Server α → Prop
  | .done _ => False
  | .perform _ k => ∀ x, Endless (k x)
  | .call q k => (∃ cl, q = .serverLoop cl) ∨ ∀ x, Endless (k x)

theorem endless_bind {α β : Type} {f : α → Server β} (hf : ∀ a, Endless (f a)) (p : Server α) :
    Endless (p.bind f) := by
  induction p with
  | done a => exact hf a
  | perform o k ih => exact fun x => ih x
  | call q k ih => exact Or.inr fun x => ih x

theorem endless_serverLoop {α : Type} {cl : Int} (k : Unit → Server α) :
    Endless ((serverLoopBody cl).bind k) := by
  unfold serverLoopBody
  rw [Program.bind_eq_bind, Program.bind_assoc]
  apply endless_bind
  intro cl'
  exact Or.inl ⟨cl', rfl⟩

theorem Endless.not_runs {α : Type} {p : Server α} (hp : Endless p) {w w' : World} {a : α} :
    ¬ Runs server p w a w' := by
  intro h
  have key := Runs.induct
    (motive := fun (p : Server α) _ _ _ => ¬ Endless p)
    (fun _ _ hp => hp)
    (fun o k _ x _ _ _ _ ih hp => ih (hp x))
    (fun q k _ _ _ ih hp => by
      rcases hp with ⟨cl, rfl⟩ | hk
      · exact ih (endless_serverLoop k)
      · exact ih (endless_bind hk _))
    h
  exact key hp

theorem openServerSocket_never_returns {w w' : World} : ¬ Runs server openServerSocket w () w' := by
  refine Endless.not_runs ?_
  unfold openServerSocket
  intro accepted
  show Endless (if toInt16 accepted = -1 then _ else _)
  split
  · exact fun x => x.elim
  · exact Or.inl ⟨toInt16 accepted, rfl⟩

/-! ## Options in some order -/

/-- The two run options. -/
inductive RunOption
  | verbose
  | daemon
  deriving DecidableEq, Repr

/-- An option as it is written on the command line. -/
inductive Argument
  | run (mode : RunOption)
  | port (text : Text)
  | path (text : Text)
  deriving DecidableEq, Repr

namespace Argument

/-- The words of an option. -/
def words : Argument → List Text
  | run .verbose => [['-', 'v']]
  | run .daemon => [['-', 'd']]
  | port text => [['-', 'p'], text]
  | path text => [['-', 'm'], text]

/-- What `getopt` makes of it. -/
def option : Argument → Char × Text
  | run .verbose => ('v', [])
  | run .daemon => ('d', [])
  | port text => ('p', text)
  | path text => ('m', text)

/-- What it does to the settings. -/
def apply (settings : Settings) : Argument → Settings
  | run .verbose => { settings with verbose := 1 }
  | run .daemon => settings
  | port text => { settings with serverPort := toInt16 (atoi text) }
  | path text => { settings with manualValsFilePath := text }

/-- The port that an option sets. -/
def portOf : Argument → Option Int
  | port text => some (toInt16 (atoi text))
  | _ => none

/-- The path that an option sets. -/
def pathOf : Argument → Option Text
  | path text => some text
  | _ => none

theorem serverPort_apply (settings : Settings) (argument : Argument) :
    (argument.apply settings).serverPort = argument.portOf.getD settings.serverPort := by
  rcases argument with (_ | _) | _ | _ <;> rfl

theorem manualValsFilePath_apply (settings : Settings) (argument : Argument) :
    (argument.apply settings).manualValsFilePath =
      argument.pathOf.getD settings.manualValsFilePath := by
  rcases argument with (_ | _) | _ | _ <;> rfl

def isRun : Argument → Bool
  | run _ => true
  | _ => false

end Argument

/-- The command line with the options in a given order. -/
def commandLine (order : List Argument) : List Text :=
  "SMDServer".toList :: order.flatMap Argument.words

theorem getopt_words (order : List Argument) :
    getopt "dhvp:m:".toList (order.flatMap Argument.words) = order.map Argument.option := by
  have hd : takesArgument "dhvp:m:".toList 'd' = some false := by decide +kernel
  have hv : takesArgument "dhvp:m:".toList 'v' = some false := by decide +kernel
  have hp : takesArgument "dhvp:m:".toList 'p' = some true := by decide +kernel
  have hm : takesArgument "dhvp:m:".toList 'm' = some true := by decide +kernel
  induction order with
  | nil => rfl
  | cons argument order ih =>
      rw [List.flatMap_cons, List.map_cons, ← ih]
      cases argument with
      | run mode =>
          cases mode with
          | verbose => exact getopt_flag hv (by decide) _
          | daemon => exact getopt_flag hd (by decide) _
      | port text => exact getopt_argument hp (by decide) text _
      | path text => exact getopt_argument hm (by decide) text _

/-- The settings that are made before the run option. -/
theorem parseArgsLoop_of_run {surroundings : Surroundings} {argc : Nat} (hargc : 3 < argc)
    {before : List Argument} (hbefore : ∀ argument ∈ before, argument.isRun = false)
    (mode : RunOption) (after : List (Char × Text)) (settings : Settings) :
    parseArgsLoop surroundings argc
        (before.map Argument.option ++ (Argument.run mode).option :: after) settings =
      if mode = .daemon ∧ daemonize surroundings = false then
        .exitFailure
      else
        .startListening ((before ++ [Argument.run mode]).foldl Argument.apply settings) := by
  induction before generalizing settings with
  | nil =>
      cases mode with
      | verbose => rfl
      | daemon =>
          show (if daemonize surroundings = true then _ else _) = _
          cases daemonize surroundings <;> rfl
  | cons argument before ih =>
      rw [List.forall_mem_cons] at hbefore
      cases argument with
      | run mode' => cases hbefore.1
      | port text =>
          show (if argc ≤ 3 then _ else _) = _
          rw [if_neg (by omega)]
          exact ih hbefore.2 _
      | path text => exact ih hbefore.2 _

/-! ## Which settings the server starts with -/

/-- One run option, a port, and a path or none. -/
def givenArguments (mode : RunOption) (port : Text) (path : Option Text) : List Argument :=
  .run mode :: .port port :: path.toList.map .path

/-- The options that stand before the run option. -/
def beforeRun (order : List Argument) : List Argument :=
  order.takeWhile fun argument => !argument.isRun

/-- The user is root, and a daemon can be forked off. -/
def LetsStart (surroundings : Surroundings) (mode : RunOption) : Prop :=
  surroundings.geteuid = 0 ∧ (mode = .daemon → daemonize surroundings = true)

instance (surroundings : Surroundings) (mode : RunOption) :
    Decidable (LetsStart surroundings mode) :=
  inferInstanceAs (Decidable (_ ∧ (_ → _)))

/-- A field of the settings has the value of the options that set it, if they agree. -/
theorem field_foldl_apply {α : Type} (field : Settings → α) (sets : Argument → Option α)
    (hsets : ∀ settings argument,
      field (argument.apply settings) = (sets argument).getD (field settings))
    {x : α} {order : List Argument} (hx : ∀ argument ∈ order, ∀ y, sets argument = some y → y = x)
    (settings : Settings) :
    field (order.foldl Argument.apply settings) =
      if ∃ argument ∈ order, (sets argument).isSome then x else field settings := by
  induction order generalizing settings with
  | nil => rw [List.foldl_nil, if_neg (by simp)]
  | cons argument order ih =>
      rw [List.forall_mem_cons] at hx
      rw [List.foldl_cons, ih hx.2, hsets]
      cases hargument : sets argument with
      | none => simp [hargument]
      | some y =>
          have hy : y = x := hx.1 y hargument
          simp [hargument, hy]

section

variable {surroundings : Surroundings} {mode : RunOption} {port : Text} {path : Option Text}
variable {order : List Argument}

theorem mem_givenArguments_iff {argument : Argument} :
    argument ∈ givenArguments mode port path ↔
      argument = .run mode ∨ argument = .port port ∨ ∃ p ∈ path, argument = .path p := by
  simp [givenArguments, eq_comm]

/-- Every order has its run option somewhere, with the rest behind it. -/
theorem exists_after_run (horder : order.Perm (givenArguments mode port path)) :
    ∃ after, order = beforeRun order ++ .run mode :: after := by
  have hsplit : order = beforeRun order ++ order.dropWhile fun argument => !argument.isRun :=
    List.takeWhile_append_dropWhile.symm
  cases hrest : order.dropWhile fun argument => !argument.isRun with
  | nil =>
      -- there is a run option, so not everything was passed over
      have hrun : Argument.run mode ∈ order :=
        horder.mem_iff.mpr (mem_givenArguments_iff.mpr (Or.inl rfl))
      have hpassed := List.dropWhile_eq_nil_iff.mp hrest _ hrun
      cases hpassed
  | cons argument after =>
      have hmem : argument ∈ order := by
        rw [hsplit, hrest]
        exact List.mem_append_right _ List.mem_cons_self
      have hrun : argument.isRun = true := by
        have hhead := List.head?_dropWhile_not (fun argument : Argument => !argument.isRun) order
        rw [hrest] at hhead
        simpa using hhead
      rcases mem_givenArguments_iff.mp (horder.mem_iff.mp hmem) with rfl | rfl | ⟨p, _, rfl⟩
      · exact ⟨after, by rw [← hrest]; exact hsplit⟩
      · cases hrun
      · cases hrun

/-- The server starts with what stands before the run option. -/
theorem main_commandLine (horder : order.Perm (givenArguments mode port path)) :
    main surroundings (commandLine order) =
      if LetsStart surroundings mode then
        .startListening ((beforeRun order ++ [Argument.run mode]).foldl Argument.apply
          Settings.initial)
      else
        .exitFailure := by
  obtain ⟨after, hafter⟩ := exists_after_run horder
  have hargc : 3 < (commandLine order).length := by
    have hlength : (commandLine order).length = (order.flatMap Argument.words).length + 1 := rfl
    have hwords := (horder.flatMap_right Argument.words).length_eq
    rw [hlength, hwords]
    cases mode <;> simp [givenArguments, Argument.words]
  have hbefore : ∀ argument ∈ beforeRun order, argument.isRun = false := by
    intro argument hargument
    simpa using List.mem_takeWhile_imp hargument
  unfold main parseArgs
  have htail : (commandLine order).tail = order.flatMap Argument.words := rfl
  rw [htail, getopt_words]
  by_cases hroot : surroundings.geteuid = 0
  · have hoptions : order.map Argument.option =
        (beforeRun order).map Argument.option ++
          (Argument.run mode).option :: after.map Argument.option := by
      conv_lhs => rw [hafter]
      rw [List.map_append, List.map_cons]
    rw [if_neg (not_not_intro hroot), hoptions, parseArgsLoop_of_run hargc hbefore]
    by_cases hdaemon : mode = .daemon ∧ daemonize surroundings = false
    · rw [if_pos hdaemon, if_neg]
      rintro ⟨_, hforked⟩
      rw [hforked hdaemon.1] at hdaemon
      exact absurd hdaemon.2 (by decide)
    · rw [if_neg hdaemon, if_pos]
      refine ⟨hroot, fun hmode => ?_⟩
      simpa [hmode] using hdaemon
  · rw [if_pos hroot, if_neg fun h => hroot h.1]

/-- A field that one of the options sets, and the run option does not, has its value if this
option stands before the run option, and else the value that it begins with. -/
theorem field_started {α : Type} {field : Settings → α} {sets : Argument → Option α}
    (hsets : ∀ settings argument,
      field (argument.apply settings) = (sets argument).getD (field settings))
    (horder : order.Perm (givenArguments mode port path)) {setter : Argument} {x : α}
    (hsetter : sets setter = some x) (hrun : sets (.run mode) = none)
    (honly : ∀ argument ∈ givenArguments mode port path,
      (sets argument).isSome → argument = setter) :
    field ((beforeRun order ++ [Argument.run mode]).foldl Argument.apply Settings.initial) =
      if setter ∈ beforeRun order then x else field Settings.initial := by
  -- of the options that have taken effect none but the setter sets the field
  have hbefore : ∀ argument ∈ beforeRun order ++ [Argument.run mode],
      (sets argument).isSome → argument = setter ∧ argument ∈ beforeRun order := by
    intro argument hargument hsome
    rcases List.mem_append.mp hargument with hmem | hmem
    · have hgiven := horder.mem_iff.mp ((List.takeWhile_prefix _).subset hmem)
      exact ⟨honly argument hgiven hsome, hmem⟩
    · rw [List.mem_singleton.mp hmem, hrun] at hsome
      cases hsome
  have hset : (∃ argument ∈ beforeRun order ++ [Argument.run mode], (sets argument).isSome) ↔
      setter ∈ beforeRun order := by
    constructor
    · rintro ⟨argument, hargument, hsome⟩
      obtain ⟨rfl, hmem⟩ := hbefore argument hargument hsome
      exact hmem
    · intro hmem
      refine ⟨setter, List.mem_append_left _ hmem, ?_⟩
      rw [hsetter]
      rfl
  rw [field_foldl_apply field sets hsets (x := x)]
  · simp only [hset]
  · intro argument hargument y hy
    obtain ⟨rfl, _⟩ := hbefore argument hargument (by rw [hy]; rfl)
    rw [hsetter] at hy
    exact (Option.some.inj hy).symm

theorem serverPort_started (horder : order.Perm (givenArguments mode port path)) :
    ((beforeRun order ++ [Argument.run mode]).foldl Argument.apply
        Settings.initial).serverPort =
      if .port port ∈ beforeRun order then toInt16 (atoi port) else 7000 := by
  refine field_started Argument.serverPort_apply horder rfl rfl ?_
  intro argument hgiven hsome
  rcases mem_givenArguments_iff.mp hgiven with rfl | rfl | ⟨p, _, rfl⟩
  · cases hsome
  · rfl
  · cases hsome

theorem manualValsFilePath_started {p : Text} (horder : order.Perm (givenArguments mode port path))
    (hpath : path = some p) :
    ((beforeRun order ++ [Argument.run mode]).foldl Argument.apply
        Settings.initial).manualValsFilePath =
      if .path p ∈ beforeRun order then p else "/tmp/smd_manual_values".toList := by
  subst hpath
  refine field_started Argument.manualValsFilePath_apply horder rfl rfl ?_
  intro argument hgiven hsome
  rcases mem_givenArguments_iff.mp hgiven with rfl | rfl | ⟨q, hq, rfl⟩
  · cases hsome
  · cases hsome
  · cases hq
    rfl

end

/-- The server starts, and with the port and the path that the options give. -/
def StartsAsAsked (surroundings : Surroundings) (n : Int) (path : Option Text)
    (argv : List Text) : Prop :=
  ∃ settings, main surroundings argv = .startListening settings ∧ settings.serverPort = n ∧
    ∀ p, path = some p → settings.manualValsFilePath = p

/-- Whatever the order, the server starts as asked if the port and the path stand before the
run option, or ask for what is there without them. -/
theorem startsAsAsked_iff (surroundings : Surroundings) (mode : RunOption) (port : Text)
    (n : Int) (path : Option Text) (order : List Argument) (hport : (strtol port).value = n)
    (hlo : 1 ≤ n) (hhi : n ≤ 32767) (horder : order.Perm (givenArguments mode port path)) :
    StartsAsAsked surroundings n path (commandLine order) ↔
      LetsStart surroundings mode ∧ (.port port ∈ beforeRun order ∨ n = 7000) ∧
        ∀ p, path = some p →
          .path p ∈ beforeRun order ∨ p = "/tmp/smd_manual_values".toList := by
  have hread : toInt16 (atoi port) = n := by
    rw [atoi, hport, toInt32_eq_self (by omega) (by omega), toInt16_eq_self (by omega) hhi]
  have hserverPort := serverPort_started horder
  rw [hread] at hserverPort
  unfold StartsAsAsked
  rw [main_commandLine horder]
  by_cases hstart : LetsStart surroundings mode
  · rw [if_pos hstart]
    simp only [Started.startListening.injEq, exists_eq_left', hserverPort, hstart, true_and]
    refine and_congr ?_ (forall_congr' fun p => imp_congr_right fun hp => ?_)
    · by_cases hmem : .port port ∈ beforeRun order
      · simp [hmem]
      · simp [hmem, eq_comm]
    · rw [manualValsFilePath_started horder hp]
      by_cases hmem : .path p ∈ beforeRun order
      · simp [hmem]
      · simp [hmem, eq_comm]
  · rw [if_neg hstart]
    simp [hstart]

/-- The port first: the server listens on it. -/
theorem startsAsAsked_port_first :
    StartsAsAsked ⟨0, true, true, true⟩ 4242 none
      (commandLine [.port "4242".toList, .run .verbose]) :=
  (startsAsAsked_iff ⟨0, true, true, true⟩ .verbose "4242".toList 4242 none
    [.port "4242".toList, .run .verbose] (by decide +kernel) (by decide) (by decide)
    (List.Perm.swap _ _ _)).mpr
    ⟨by decide, Or.inl (by decide +kernel), fun p hp => by cases hp⟩

/-- The run option first, as in the example of the manual: the server listens on the port that
it has without the option. -/
theorem port_behind_verbose :
    ¬ ∀ (surroundings : Surroundings) (mode : RunOption) (port : Text) (n : Int)
      (path : Option Text) (order : List Argument), LetsStart surroundings mode →
      (strtol port).value = n → 1 ≤ n → n ≤ 32767 →
      order.Perm (givenArguments mode port path) →
      StartsAsAsked surroundings n path (commandLine order) := by
  intro h
  obtain ⟨settings, hmain, hport, _⟩ := h ⟨0, true, true, true⟩ .verbose "4242".toList 4242 none
    [.run .verbose, .port "4242".toList] (by decide) (by decide +kernel) (by decide) (by decide)
    (List.Perm.refl _)
  have hstarted : main ⟨0, true, true, true⟩
      (commandLine [.run .verbose, .port "4242".toList]) =
      .startListening ⟨7000, 1, "/tmp/smd_manual_values".toList⟩ := by decide +kernel
  rw [hstarted] at hmain
  cases hmain
  exact absurd hport (by decide)

end SmdControlServer
