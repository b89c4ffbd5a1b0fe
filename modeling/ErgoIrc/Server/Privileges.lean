import ErgoIrc.Server.Lifecycle

/-! The operator flags. Every handler but `OperCommand.HandleServer` leaves `Operator` and
`LocalOperator` alone or clears them: the user `MODE` loop can only remove them, and the
RFC 2812 `USER` modes are `Invisible` and `WallOps`. So a client is an operator only after
an `OPER` with a password hash and no error, and `KILL` and `DEBUG`, which test `Operator`,
serve no one else. -/
namespace Ergo.Irc

namespace ClientMove

variable {x : ClientId} {event : Event} {c c' : Client}

theorem operator_raised (move : ClientMove x event c c') (before : c.flags .operator = false)
    (after : c'.flags .operator = true) :
    ∃ hash, event = .command (.oper x (some hash) none) ∧
      (c.phase = .normal ∨ c.phase = .terminated) := by
  cases move with
  | tame tame => simp [tame.privileges.operator after] at before
  | pass => simp_all
  | register _ _ _ _ privileges => simp [privileges.operator after] at before
  | oper registered => exact ⟨_, rfl, registered⟩

theorem localOperator_kept (move : ClientMove x event c c')
    (before : c.flags .localOperator = false) : c'.flags .localOperator = false := by
  rw [← Bool.not_eq_true] at before ⊢
  cases move with
  | tame tame => exact before ∘ tame.privileges.localOperator
  | pass => exact before
  | register _ _ _ _ privileges => exact before ∘ privileges.localOperator
  | oper _ _ localOperator => exact before ∘ localOperator

end ClientMove

/-- A user `MODE` from a client without `Operator` writes no other client. -/
theorem ModeCommand.handleServer_others (lowerRune : Char → Char) (s : Server)
    (requester : ClientId) (nickname : String) (changes : List ModeChange)
    (plain : (s.heap requester).flags .operator = false) (y : ClientId) (other : y ≠ requester) :
    (ModeCommand.handleServer lowerRune s requester nickname changes).heap y = s.heap y := by
  unfold ModeCommand.handleServer
  split
  · rfl
  · rename_i target _
    split_ifs with refused
    · rfl
    · have own : requester = target := by simpa [plain] using refused
      subst own
      dsimp only
      split_ifs <;> simp [Function.update_noteq other]

/-- The operator flags of the clients from a state of the loop, over any events. -/
structure Privileges (lowerRune : Char → Char) (methods : ChannelMethods) (s : Server)
    (x : ClientId) : Prop where
  /-- An event raises the client's `Operator` only as an `OPER` of its own with a hash and
  no error, handled by `OperCommand.HandleServer` past registration. -/
  operator_step : ∀ world event, (s.heap x).flags .operator = false →
    ((s.handleEvent lowerRune methods world event).heap x).flags .operator = true →
    ∃ hash, event = .command (.oper x (some hash) none) ∧
      ((s.heap x).phase = .normal ∨ (s.heap x).phase = .terminated)
  /-- A run raises the client's `Operator` only if it holds such an `OPER`. -/
  operator_run : ∀ events, (s.heap x).flags .operator = false →
    ((s.run lowerRune methods events).heap x).flags .operator = true →
    ∃ world hash, (world, Event.command (.oper x (some hash) none)) ∈ events
  /-- No run raises the client's `LocalOperator`. -/
  localOperator_run : ∀ events, (s.heap x).flags .localOperator = false →
    ((s.run lowerRune methods events).heap x).flags .localOperator = false
  /-- A user `MODE` raises no operator flag of any client. -/
  mode_keeps : ∀ requester nickname changes y,
    (s.heap y).KeepsPrivileges
      ((ModeCommand.handleServer lowerRune s requester nickname changes).heap y)
  /-- A user `MODE` writes another client only for a requester with `Operator`. -/
  mode_others : ∀ requester nickname changes, (s.heap requester).flags .operator = false →
    ∀ y, y ≠ requester → (ModeCommand.handleServer lowerRune s requester nickname changes).heap y = s.heap y
  /-- `KILL` from the client without `Operator` is refused and changes nothing else. -/
  kill_closed : ∀ nickname comment, (s.heap x).flags .operator = false →
    KillCommand.handleServer lowerRune methods s x nickname comment = s.reply x .errNoPrivileges
  /-- `DEBUG` from the client without `Operator` does nothing. -/
  debug_closed : ∀ world subCommand, (s.heap x).flags .operator = false →
    DebugCommand.handleServer world s x subCommand = s

theorem client_privileges (lowerRune : Char → Char) (methods : ChannelMethods) (s : Server)
    (x : ClientId) (allocated : x.addr < s.allocated) : Privileges lowerRune methods s x where
  operator_step world event before after :=
    (Server.handleEvent_move lowerRune methods world s event allocated).operator_raised before after
  operator_run events before after := by
    by_contra unopered
    push_neg at unopered
    have kept := Server.run_preserves lowerRune methods (fun c => c.flags .operator = false) events
      (fun world event c c' mem move plain => by
        by_contra raised
        obtain ⟨hash, rfl, -⟩ := move.operator_raised plain (by simpa using raised)
        exact unopered world hash mem) s allocated before
    simp [kept] at after
  localOperator_run events before :=
    Server.run_preserves lowerRune methods (fun c => c.flags .localOperator = false) events
      (fun _ _ _ _ _ move => move.localOperator_kept) s allocated before
  mode_keeps requester nickname changes y :=
    ((ModeCommand.handleServer_writes lowerRune methods s requester nickname changes).tame.client
      y).privileges
  mode_others requester nickname changes plain :=
    ModeCommand.handleServer_others lowerRune s requester nickname changes plain
  kill_closed nickname comment plain := by simp [KillCommand.handleServer, plain]
  debug_closed world subCommand plain := by simp [DebugCommand.handleServer, plain]

theorem client_privileges_connected :
    (⟨0⟩ : ClientId).addr < lockedServer.allocated ∧
      Privileges Char.toLower (specChannels Char.toLower) lockedServer ⟨0⟩ :=
  ⟨by decide, client_privileges Char.toLower (specChannels Char.toLower) lockedServer ⟨0⟩ (by decide)⟩

end Ergo.Irc
