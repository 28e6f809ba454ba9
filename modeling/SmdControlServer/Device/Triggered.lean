import Mathlib.Data.List.Basic
import Mathlib.Logic.Function.Basic

/-!
# Devices with registers

A device whose registers are written one at a time.  A write can make the device take up
a command, which it reads out of the registers as they are then.

* `Device.takenUp` — the commands that the device takes up for a list of writes.
* `Device.Performs` — a list of writes makes the device take up these commands and no
  others, whatever its registers hold before.  Such lists can be put one after the other.
* `Device.takenUp_kinds` — where the kind of a command can be read off the write that
  triggers it, every command comes with a write of its own, whatever else is written.
-/

/-- `react` says what the device takes up when an address has just been written. -/
structure Device (Address Value Command : Type*) where
  react : Address → (Address → Value) → Option Command

namespace Device

variable {Address Value Command Kind : Type*} [DecidableEq Address]

/-- The registers after some writes. -/
def after (regs : Address → Value) : List (Address × Value) → Address → Value
  | [] => regs
  | write :: rest => after (Function.update regs write.1 write.2) rest

/-- The commands that the device takes up, in the order of the writes. -/
def takenUp (d : Device Address Value Command) :
    (Address → Value) → List (Address × Value) → List Command
  | _, [] => []
  | regs, write :: rest =>
      (d.react write.1 (Function.update regs write.1 write.2)).toList ++
        takenUp d (Function.update regs write.1 write.2) rest

/-- The writes make the device take up the commands, from any registers. -/
def Performs (d : Device Address Value Command) (writes : List (Address × Value))
    (commands : List Command) : Prop :=
  ∀ regs, d.takenUp regs writes = commands

/-- A write that never makes the device take up anything. -/
def Silent (d : Device Address Value Command) (write : Address × Value) : Prop :=
  ∀ regs, d.react write.1 (Function.update regs write.1 write.2) = none

section

variable {d : Device Address Value Command} {regs : Address → Value}
  {writes writes' : List (Address × Value)} {commands commands' : List Command}

@[simp] theorem after_nil : after regs [] = regs := rfl

@[simp] theorem after_cons (write : Address × Value) :
    after regs (write :: writes) = after (Function.update regs write.1 write.2) writes := rfl

theorem after_append :
    after regs (writes ++ writes') = after (after regs writes) writes' := by
  induction writes generalizing regs with
  | nil => rfl
  | cons write rest ih => exact ih

/-- The register of the last write. -/
theorem after_concat_self (last : Address × Value) :
    after regs (writes ++ [last]) last.1 = last.2 := by
  rw [after_append, after_cons, after_nil, Function.update_self]

/-- A register holds what was last written to it. -/
theorem after_apply (a : Address) :
    after regs writes a = ((writes.reverse.find? fun write => write.1 = a).map Prod.snd).getD
      (regs a) := by
  induction writes generalizing regs with
  | nil => rfl
  | cons write rest ih =>
      rw [after_cons, ih, List.reverse_cons, List.find?_append]
      cases hrest : rest.reverse.find? fun write => write.1 = a with
      | some last => rfl
      | none =>
          by_cases ha : write.1 = a
          · subst ha
            simp
          · simp [ha, Function.update_of_ne (Ne.symm ha)]

@[simp] theorem takenUp_nil : d.takenUp regs [] = [] := rfl

theorem takenUp_cons (write : Address × Value) :
    d.takenUp regs (write :: writes) =
      (d.react write.1 (Function.update regs write.1 write.2)).toList ++
        d.takenUp (Function.update regs write.1 write.2) writes := rfl

theorem takenUp_append :
    d.takenUp regs (writes ++ writes') =
      d.takenUp regs writes ++ d.takenUp (after regs writes) writes' := by
  induction writes generalizing regs with
  | nil => rfl
  | cons write rest ih =>
      rw [List.cons_append, takenUp_cons, takenUp_cons, ih, List.append_assoc, after_cons]

/-- What has been taken up stays taken up. -/
theorem takenUp_mono (h : writes <+: writes') :
    d.takenUp regs writes <+: d.takenUp regs writes' := by
  obtain ⟨rest, rfl⟩ := h
  rw [takenUp_append]
  exact List.prefix_append _ _

theorem Silent.takenUp_cons {write : Address × Value} (h : d.Silent write) :
    d.takenUp regs (write :: writes) =
      d.takenUp (Function.update regs write.1 write.2) writes := by
  rw [Device.takenUp_cons, h regs, Option.toList_none, List.nil_append]

/-! ## Programs -/

theorem Performs.nil : d.Performs [] [] := fun _ => rfl

theorem Performs.append (h : d.Performs writes commands) (h' : d.Performs writes' commands') :
    d.Performs (writes ++ writes') (commands ++ commands') := by
  intro regs
  rw [takenUp_append, h regs, h' (after regs writes)]

/-- Programs one after the other perform what each of them performs. -/
theorem Performs.flatMap {ι : Type*} {program : ι → List (Address × Value)}
    {meaning : ι → List Command} {is : List ι}
    (h : ∀ i ∈ is, d.Performs (program i) (meaning i)) :
    d.Performs (is.flatMap program) (is.flatMap meaning) := by
  induction is with
  | nil => exact Performs.nil
  | cons i rest ih =>
      rw [List.flatMap_cons, List.flatMap_cons]
      exact (h i List.mem_cons_self).append (ih fun j hj => h j (List.mem_cons_of_mem _ hj))

/-- Silent writes perform nothing. -/
theorem performs_of_silent (h : ∀ write ∈ writes, d.Silent write) : d.Performs writes [] := by
  intro regs
  induction writes generalizing regs with
  | nil => rfl
  | cons write rest ih =>
      rw [(h write List.mem_cons_self).takenUp_cons]
      exact ih (fun w hw => h w (List.mem_cons_of_mem _ hw)) _

/-- Silent writes and then a trigger: the command is read out of the registers that have
been written. -/
theorem performs_concat {last : Address × Value} (h : ∀ write ∈ writes, d.Silent write)
    (hlast : ∀ regs, (d.react last.1 (after regs (writes ++ [last]))).toList = commands) :
    d.Performs (writes ++ [last]) commands := by
  intro regs
  rw [takenUp_append, performs_of_silent h regs, List.nil_append, takenUp_cons, takenUp_nil,
    List.append_nil, ← hlast regs, after_append]
  rfl

/-- Between two lists of writes that perform something. -/
theorem Performs.between {middle : List (Address × Value)} (h : d.Performs writes commands)
    (h' : d.Performs writes' commands') (hbefore : writes <+: middle)
    (hafter : middle <+: writes') (regs : Address → Value) :
    commands <+: d.takenUp regs middle ∧ d.takenUp regs middle <+: commands' := by
  rw [← h regs, ← h' regs]
  exact ⟨takenUp_mono hbefore, takenUp_mono hafter⟩

/-! ## Kinds -/

/-- Each command comes with a write of its kind. -/
theorem takenUp_kinds {kind : Command → Kind} {kindOf : Address × Value → Option Kind}
    (h : ∀ a regs c, d.react a regs = some c → kindOf (a, regs a) = some (kind c)) :
    ((d.takenUp regs writes).map kind).Sublist (writes.filterMap kindOf) := by
  induction writes generalizing regs with
  | nil => exact List.Sublist.refl _
  | cons write rest ih =>
      obtain ⟨a, v⟩ := write
      have hrest := @ih (Function.update regs a v)
      rw [takenUp_cons, List.map_append]
      cases hreact : d.react a (Function.update regs a v) with
      | none =>
          rw [Option.toList_none, List.map_nil, List.nil_append]
          refine hrest.trans ((List.sublist_cons_self (a, v) rest).filterMap kindOf)
      | some c =>
          have hkind : kindOf (a, v) = some (kind c) := by
            have := h a _ c hreact
            rwa [Function.update_self] at this
          rw [List.filterMap_cons_some hkind]
          exact hrest.cons_cons (kind c)

end

end Device
