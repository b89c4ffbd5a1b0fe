import ErgoIrc.Server.Lifecycle

/-! A user `MODE` that is allowed (the requester is the target, or holds `Operator`): what
it leaves in the target's flags and what its one `MODE` reply lists. The reply lists every
change that altered a flag when applied, in order, so a mode toggled twice is listed twice. -/
namespace Ergo.Irc

section

variable (lowerRune : Char → Char) (s : Server) (requester : ClientId) (nickname : String)
  (changes : List ModeChange) {target : ClientId}

/-- The target's flags and the reply of an allowed user `MODE`. -/
theorem ModeCommand.handleServer_allowed (found : s.clients.get lowerRune nickname = some target)
    (allowed : requester = target ∨ (s.heap requester).flags .operator = true) :
    ((ModeCommand.handleServer lowerRune s requester nickname changes).heap target).flags =
        (applyModeChanges (s.heap target).flags changes).1 ∧
      (ModeCommand.handleServer lowerRune s requester nickname changes).outbox = s.outbox ++
        if (applyModeChanges (s.heap target).flags changes).2 = [] then []
        else [(requester, .mode requester target (applyModeChanges (s.heap target).flags changes).2)] := by
  have permitted : ¬(decide (requester ≠ target) && !(s.heap requester).flags .operator) = true := by
    rcases allowed with rfl | operator <;> simp [*]
  unfold ModeCommand.handleServer
  rw [found]
  simp only [permitted, if_false]
  rcases applied : applyModeChanges (s.heap target).flags changes with ⟨flags, listed⟩
  cases listed <;> simp [Server.reply, Server.modify]

end

/-- What an allowed user `MODE` leaves in the target's flags, mode by mode, and what its reply
lists. -/
structure ModeResult (old new : UserMode → Bool) (changes listed : List ModeChange) : Prop where
  /-- `Invisible`, `ServerNotice` and `WallOps` take the value of the last change naming them. -/
  settable : ∀ mode, ModeChange.settable mode → new mode = (lastSetting changes mode).getD (old mode)
  /-- `Operator` and `LocalOperator` are cleared by any `-` change naming them. -/
  clearable : ∀ mode, ModeChange.clearable mode →
    new mode = (old mode && !changes.any fun change => change.mode = mode ∧ change.op = .remove)
  /-- Every other flag is unchanged. -/
  other : ∀ mode, ¬ModeChange.settable mode → ¬ModeChange.clearable mode → new mode = old mode
  /-- The listed changes, applied in order to the old flags, give the new flags. -/
  replay : replayModeChanges old listed = new
  /-- Each listed change alters its flag where it is applied. -/
  effective : Effective old listed

theorem mode_result (lowerRune : Char → Char) (s : Server) (requester : ClientId)
    (nickname : String) (changes : List ModeChange) {target : ClientId}
    (found : s.clients.get lowerRune nickname = some target)
    (allowed : requester = target ∨ (s.heap requester).flags .operator = true) :
    ∃ listed, ModeResult (s.heap target).flags
        ((ModeCommand.handleServer lowerRune s requester nickname changes).heap target).flags
        changes listed ∧
      (ModeCommand.handleServer lowerRune s requester nickname changes).outbox = s.outbox ++
        if listed = [] then [] else [(requester, .mode requester target listed)] := by
  obtain ⟨flags, outbox⟩ := ModeCommand.handleServer_allowed lowerRune s requester nickname changes found allowed
  obtain ⟨replay, effective⟩ := applyModeChanges_replay (s.heap target).flags changes
  refine ⟨_, ⟨fun mode settable => ?_, fun mode clearable => ?_, fun mode fixed unclearable => ?_,
    flags ▸ replay, effective⟩, outbox⟩ <;> rw [flags, applyModeChanges_flag]
  · rw [if_pos settable]
  · rw [if_neg (ModeChange.not_settable_of_clearable clearable), if_pos clearable]
  · rw [if_neg fixed, if_neg unclearable]

/-- A server with one registered client, `alice` at address 0, and no password. -/
def registeredServer : Server :=
  (Server.new Char.toLower ⟨"irc.example.net", "", ""⟩ []).run Char.toLower
    (specChannels Char.toLower)
    [(quietWorld, .newConn "example.net"), (quietWorld, .command (.nick ⟨0⟩ "alice")),
      (quietWorld, .command (.userRFC1459 ⟨0⟩ "alice" "Alice"))]

/-- `+i` then `-i`. -/
def toggleInvisible : List ModeChange := [⟨.invisible, .add⟩, ⟨.invisible, .remove⟩]

theorem mode_result_self :
    registeredServer.clients.get Char.toLower "alice" = some ⟨0⟩ ∧
      ∃ listed, ModeResult (registeredServer.heap ⟨0⟩).flags
          ((ModeCommand.handleServer Char.toLower registeredServer ⟨0⟩ "alice"
            toggleInvisible).heap ⟨0⟩).flags toggleInvisible listed ∧
        (ModeCommand.handleServer Char.toLower registeredServer ⟨0⟩ "alice"
            toggleInvisible).outbox = registeredServer.outbox ++
          if listed = [] then [] else [(⟨0⟩, .mode ⟨0⟩ ⟨0⟩ listed)] :=
  ⟨by decide, mode_result Char.toLower registeredServer ⟨0⟩ "alice" toggleInvisible (by decide)
    (.inl rfl)⟩

end Ergo.Irc
