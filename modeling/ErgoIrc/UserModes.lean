import ErgoIrc.Client

/-! The change loop of `ModeCommand.HandleServer`: it walks a user MODE change list left
to right over the target's flags, skips a change that would not alter its flag, and
collects the changes it applied for the reply. `Invisible`, `ServerNotice` and `WallOps`
can be added and removed; `Operator` and `LocalOperator` can only be removed; any other
mode is ignored. -/
namespace Ergo.Irc

/-- `ModeOp` as the user MODE parser builds it: `+` (`Add`) or `-` (`Remove`). -/
inductive ModeOp where
  | add
  | remove
  deriving DecidableEq, Repr

structure ModeChange where
  mode : UserMode
  op : ModeOp
  deriving DecidableEq, Repr

namespace ModeChange

/-- The modes a client may set and clear on itself. -/
def settable (mode : UserMode) : Prop :=
  mode = .invisible ∨ mode = .serverNotice ∨ mode = .wallOps

/-- The modes a client may only clear. -/
def clearable (mode : UserMode) : Prop :=
  mode = .operator ∨ mode = .localOperator

instance (mode : UserMode) : Decidable (settable mode) := inferInstanceAs (Decidable (_ ∨ _))
instance (mode : UserMode) : Decidable (clearable mode) := inferInstanceAs (Decidable (_ ∨ _))

theorem not_settable_of_clearable {mode : UserMode} (clear : clearable mode) : ¬settable mode := by
  rcases clear with rfl | rfl <;> decide

/-- One pass of the loop: `none` when the pass `continue`s or no case matches, otherwise
the target's flags after the assignment or `delete`. -/
def applyTo (flags : UserMode → Bool) (change : ModeChange) : Option (UserMode → Bool) :=
  if settable change.mode then
    match change.op with
    | .add => if flags change.mode then none else some (Function.update flags change.mode true)
    | .remove =>
      if !flags change.mode then none else some (Function.update flags change.mode false)
  else if clearable change.mode then
    if change.op = .remove then
      if !flags change.mode then none else some (Function.update flags change.mode false)
    else none
  else none

/-- A listed change as the reply states it: its mode set for `+`, cleared for `-`. -/
def set (flags : UserMode → Bool) (change : ModeChange) : UserMode → Bool :=
  Function.update flags change.mode (change.op = .add)

end ModeChange

/-- One iteration of the loop over `(target.flags, changes)`. -/
def modeLoopStep (state : (UserMode → Bool) × List ModeChange) (change : ModeChange) :
    (UserMode → Bool) × List ModeChange :=
  match change.applyTo state.1 with
  | none => state
  | some flags => (flags, state.2 ++ [change])

/-- The loop of `ModeCommand.HandleServer`: the target's flags after it, and the changes
the reply lists. -/
def applyModeChanges (flags : UserMode → Bool) (changes : List ModeChange) :
    (UserMode → Bool) × List ModeChange :=
  changes.foldl modeLoopStep (flags, [])

/-- Applying listed changes one after another. -/
def replayModeChanges (flags : UserMode → Bool) (changes : List ModeChange) :
    UserMode → Bool :=
  changes.foldl ModeChange.set flags

/-- Every change alters its flag at the point where it is applied. -/
def Effective : (UserMode → Bool) → List ModeChange → Prop
  | _, [] => True
  | flags, change :: rest =>
    flags change.mode ≠ (change.op = .add) ∧ Effective (ModeChange.set flags change) rest

namespace ModeChange

/-- A pass applies a change exactly when its mode may move that way and the flag is not
already where the change puts it. -/
theorem applyTo_eq (flags : UserMode → Bool) (change : ModeChange) :
    change.applyTo flags =
      if (settable change.mode ∨ clearable change.mode ∧ change.op = .remove) ∧
          flags change.mode ≠ (change.op = .add) then some (change.set flags)
      else none := by
  unfold applyTo set
  by_cases s : settable change.mode
  · cases op : change.op <;> cases f : flags change.mode <;> simp [s, f]
  · by_cases c : clearable change.mode
    · cases op : change.op <;> cases f : flags change.mode <;> simp [s, c, f]
    · simp [s, c]

theorem applyTo_some {flags after : UserMode → Bool} {change : ModeChange}
    (applied : change.applyTo flags = some after) :
    after = change.set flags ∧ flags change.mode ≠ (change.op = .add) := by
  rw [applyTo_eq] at applied
  split_ifs at applied with effective
  exact ⟨(Option.some.inj applied).symm, effective.2⟩

/-- What one pass leaves in the flags, skipped or not. -/
theorem getD_applyTo (flags : UserMode → Bool) (change : ModeChange) (mode : UserMode) :
    (change.applyTo flags).getD flags mode =
      if mode = change.mode then
        if settable mode then decide (change.op = .add)
        else if clearable mode ∧ change.op = .remove then false
        else flags mode
      else flags mode := by
  rw [applyTo_eq]
  by_cases same : mode = change.mode
  · subst same
    rw [if_pos rfl]
    by_cases s : settable change.mode
    · cases op : change.op <;> cases f : flags change.mode <;> simp [set, s, f, op]
    · by_cases c : clearable change.mode
      · cases op : change.op <;> cases f : flags change.mode <;> simp [set, s, c, f, op]
      · simp [s, c]
  · rw [if_neg same]
    split_ifs <;> simp [set, Function.update_noteq same]

end ModeChange

/-- The value the last change naming `mode` gives its flag, if a change names it. -/
def lastSetting (changes : List ModeChange) (mode : UserMode) : Option Bool :=
  (changes.filter (·.mode = mode)).getLast?.map (·.op = .add)

@[simp] theorem lastSetting_nil (mode : UserMode) : lastSetting [] mode = none := rfl

theorem lastSetting_append_singleton (changes : List ModeChange) (change : ModeChange)
    (mode : UserMode) :
    lastSetting (changes ++ [change]) mode =
      if change.mode = mode then some (decide (change.op = .add))
      else lastSetting changes mode := by
  unfold lastSetting
  split_ifs with same <;> simp [same, List.filter_append, List.getLast?_append]

theorem applyModeChanges_fst (flags : UserMode → Bool) (changes : List ModeChange) :
    (applyModeChanges flags changes).1 =
      changes.foldl (fun flags change => (change.applyTo flags).getD flags) flags := by
  suffices loop : ∀ (state : (UserMode → Bool) × List ModeChange),
      (changes.foldl modeLoopStep state).1 =
        changes.foldl (fun flags change => (change.applyTo flags).getD flags) state.1 from
    loop (flags, [])
  induction changes with
  | nil => simp
  | cons change rest ih =>
    intro state
    simp only [List.foldl_cons, ih, modeLoopStep]
    cases change.applyTo state.1 <;> rfl

/-- The flags after the loop, mode by mode: a settable mode takes the value of the last
change naming it, a clearable mode is cleared by any `-` change naming it, and every other
mode keeps its value. -/
theorem applyModeChanges_flag (flags : UserMode → Bool) (changes : List ModeChange)
    (mode : UserMode) :
    (applyModeChanges flags changes).1 mode =
      if ModeChange.settable mode then (lastSetting changes mode).getD (flags mode)
      else if ModeChange.clearable mode then
        flags mode && !changes.any (fun change => change.mode = mode ∧ change.op = .remove)
      else flags mode := by
  rw [applyModeChanges_fst]
  induction changes using List.reverseRecOn with
  | nil => split_ifs <;> simp
  | append_singleton changes change ih =>
    rw [List.foldl_append, List.foldl_cons, List.foldl_nil, ModeChange.getD_applyTo, ih,
      lastSetting_append_singleton, List.any_append]
    by_cases same : change.mode = mode
    · subst same
      by_cases s : ModeChange.settable change.mode
      · simp [s]
      · by_cases c : ModeChange.clearable change.mode
        · cases op : change.op <;> simp [s, c, op]
        · simp [s, c]
    · simp [Ne.symm same, same]

/-- The loop never raises a flag the client may not set on itself. -/
theorem applyModeChanges_not_raised (flags : UserMode → Bool) (changes : List ModeChange)
    {mode : UserMode} (fixed : ¬ModeChange.settable mode)
    (raised : (applyModeChanges flags changes).1 mode = true) : flags mode = true := by
  rw [applyModeChanges_flag, if_neg fixed] at raised
  split_ifs at raised
  · exact (Bool.and_eq_true _ _).mp raised |>.1
  · exact raised

theorem replayModeChanges_append_singleton (flags : UserMode → Bool) (changes : List ModeChange)
    (change : ModeChange) :
    replayModeChanges flags (changes ++ [change]) =
      ModeChange.set (replayModeChanges flags changes) change := by
  simp [replayModeChanges, List.foldl_append]

theorem effective_append_singleton (flags : UserMode → Bool) (changes : List ModeChange)
    (change : ModeChange) :
    Effective flags (changes ++ [change]) ↔ Effective flags changes ∧
      replayModeChanges flags changes change.mode ≠ (change.op = .add) := by
  induction changes generalizing flags with
  | nil => simp [Effective, replayModeChanges]
  | cons first rest ih =>
    show Effective flags (first :: (rest ++ [change])) ↔ _
    simp only [Effective, ih, replayModeChanges, List.foldl_cons, and_assoc]

/-- The reply's changes replay to the new flags, and each of them alters its flag. -/
theorem applyModeChanges_replay (flags : UserMode → Bool) (changes : List ModeChange) :
    replayModeChanges flags (applyModeChanges flags changes).2 = (applyModeChanges flags changes).1 ∧
      Effective flags (applyModeChanges flags changes).2 := by
  suffices loop : ∀ state : (UserMode → Bool) × List ModeChange,
      replayModeChanges flags state.2 = state.1 ∧ Effective flags state.2 →
      replayModeChanges flags (changes.foldl modeLoopStep state).2 =
          (changes.foldl modeLoopStep state).1 ∧
        Effective flags (changes.foldl modeLoopStep state).2 from
    loop (flags, []) ⟨rfl, trivial⟩
  induction changes with
  | nil => exact fun _ holds => holds
  | cons change rest ih =>
    rintro ⟨current, listed⟩ ⟨replayed, effective⟩
    simp only [List.foldl_cons, modeLoopStep]
    apply ih
    cases applied : change.applyTo current with
    | none => exact ⟨replayed, effective⟩
    | some after =>
      obtain ⟨rfl, alters⟩ := ModeChange.applyTo_some applied
      refine ⟨by rw [replayModeChanges_append_singleton, replayed],
        (effective_append_singleton _ _ _).mpr ⟨effective, ?_⟩⟩
      rwa [replayed]

end Ergo.Irc
