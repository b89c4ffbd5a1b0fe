import ErgoIrc.Server.Index
import ErgoIrc.Server.Lifecycle

/-! What the handlers of registered clients answer from the nickname index, in every state
the loop reaches from `NewServer`. The loop keeps the index invariant
(`Server.Reachable.indexed`), under which `ClientLookupSet.Get` finds exactly the indexed
client whose nickname equals its argument up to case, and `FindAll` exactly the indexed
clients whose user-host matches the mask as a glob; `WHOIS`, `WHO`, `ISON`, `PRIVMSG`,
`KILL`, `NICK` and the shutdown notices are read off those two. `LIST` reads the channel
table and hides private channels from clients without `Operator`. -/
namespace Ergo.Irc

/-! ## Queuing replies -/

namespace Server

@[simp] theorem send_nil (s : Server) : s.send [] = s := by
  simp [send]

theorem send_send (s : Server) (first second : Outbox) :
    (s.send first).send second = s.send (first ++ second) := by
  simp only [send, List.append_assoc]

/-- A fold whose steps only queue replies, each computed from a part of the state that
queuing leaves alone, queues them all at once. -/
theorem foldl_send {α β : Type} (view : Server → β) (stable : ∀ s out, view (s.send out) = view s)
    (out : β → α → Outbox) {f : Server → α → Server}
    (step : ∀ s a, f s a = s.send (out (view s) a)) (xs : List α) (s : Server) :
    xs.foldl f s = s.send (xs.flatMap (out (view s))) := by
  induction xs generalizing s with
  | nil => exact (send_nil s).symm
  | cons a rest ih => rw [List.foldl_cons, step, ih, stable, send_send, List.flatMap_cons]

theorem foldl_reply {α : Type} (s : Server) (xs : List α) (recipient : α → ClientId) (r : α → Reply) :
    xs.foldl (fun s a => s.reply (recipient a) (r a)) s = s.send (xs.map fun a => (recipient a, r a)) := by
  induction xs generalizing s with
  | nil => exact (send_nil s).symm
  | cons a rest ih =>
    rw [List.foldl_cons, ih, List.map_cons]
    exact send_send s [(recipient a, r a)] _

end Server

/-! ## The index in every reachable state -/

namespace ClientLookupSet

variable {lowerRune : Char → Char} {heap : ClientId → Client} {clients : ClientLookupSet}

/-- No client sits under two keys, so the values of the index never repeat. -/
theorem Invariant.values_nodup (inv : Invariant lowerRune heap clients) :
    (clients.byNick.entries.map Prod.snd).Nodup := by
  refine (clients.byNick.keys_nodup.of_map _).map_on ?_
  rintro ⟨key, x⟩ member ⟨key', y⟩ member' (same : x = y)
  subst same
  have found := (GoMap.get_eq_some_iff _ _ _).mpr member
  have found' := (GoMap.get_eq_some_iff _ _ _).mpr member'
  rw [(inv.keyed _ _ found).2, (inv.keyed _ _ found').2]

/-- Searching the indexed clients for a nickname up to case finds one exactly when `Get`
does. -/
theorem Invariant.any_nick_eq_isSome (inv : Invariant lowerRune heap clients) (nick : String) :
    (clients.byNick.entries.any fun entry =>
        toLower lowerRune (heap entry.2).nick = toLower lowerRune nick) =
      (clients.get lowerRune nick).isSome := by
  rw [Bool.eq_iff_iff, inv.get_isSome_iff, List.any_eq_true]
  simp only [Prod.exists, decide_eq_true_eq, GoMap.get_eq_some_iff]

theorem nodup_foldl_insert (found : String → Option ClientId) (names : List String)
    {set : List ClientId} (nodup : set.Nodup) :
    (names.foldl (fun set name =>
      match found name with
      | some client => set.insert client
      | none => set) set).Nodup := by
  induction names generalizing set with
  | nil => exact nodup
  | cons name rest ih =>
    apply ih
    dsimp only
    split
    · exact nodup.insert
    · exact nodup

theorem findAll_nodup (clients : ClientLookupSet) (mask : String) :
    (clients.findAll lowerRune mask).Nodup := by
  dsimp only [findAll]
  split
  · exact nodup_foldl_insert _ _ List.nodup_nil
  · exact List.nodup_nil

end ClientLookupSet

namespace Server

variable {lowerRune : Char → Char} {methods : ChannelMethods}

theorem Reachable.lookup {s : Server} (reachable : s.Reachable lowerRune methods) :
    ClientLookupSet.Invariant lowerRune s.heap s.clients :=
  (Reachable.indexed lowerRune methods reachable).reachable.invariant

/-- `alice` and `bob` registered on a server without a password, and `alice` an operator. -/
def aliceAndBob : Server :=
  (Server.new Char.toLower ⟨"irc.example.net", "", ""⟩ []).run Char.toLower
    (specChannels Char.toLower)
    [(quietWorld, .newConn "example.net"), (quietWorld, .newConn "example.org"),
      (quietWorld, .command (.nick ⟨0⟩ "alice")),
      (quietWorld, .command (.userRFC1459 ⟨0⟩ "alice" "Alice")),
      (quietWorld, .command (.nick ⟨1⟩ "bob")), (quietWorld, .command (.userRFC1459 ⟨1⟩ "bob" "Bob")),
      (quietWorld, .command (.oper ⟨0⟩ (some [1]) none))]

theorem aliceAndBob_reachable : aliceAndBob.Reachable Char.toLower (specChannels Char.toLower) :=
  Reachable.run Char.toLower _ (.new _ _) _
    ⟨trivial, trivial, by decide, by decide, by decide, by decide, by decide, trivial⟩

/-- In every state the loop reaches, the nickname index keeps the lookup set's invariant over
the server's own client records (each key the lowercased nickname of its client, the
`client` table one row per indexed client and no other), and holds only clients the loop
has created and that have registered. -/
theorem Reachable.index_invariant {s : Server} (reachable : s.Reachable lowerRune methods) :
    ClientLookupSet.Invariant lowerRune s.heap s.clients ∧
      ∀ key x, s.clients.byNick.get key = some x →
        x.addr < s.allocated ∧ Phase.normal.rank ≤ (s.heap x).phase.rank := by
  have indexed := Reachable.indexed lowerRune methods reachable
  exact ⟨indexed.reachable.invariant, fun key x found =>
    ⟨indexed.allocated key x found, indexed.registered key x found⟩⟩

theorem aliceAndBob_index_invariant :
    aliceAndBob.Reachable Char.toLower (specChannels Char.toLower) ∧
      ClientLookupSet.Invariant Char.toLower aliceAndBob.heap aliceAndBob.clients ∧
        ∀ key x, aliceAndBob.clients.byNick.get key = some x →
          x.addr < aliceAndBob.allocated ∧ Phase.normal.rank ≤ (aliceAndBob.heap x).phase.rank :=
  ⟨aliceAndBob_reachable, Reachable.index_invariant aliceAndBob_reachable⟩

/-! ## Shutdown -/

theorem shutdown_eq (s : Server) :
    s.shutdown = s.send ((s.clients.byNick.entries.map Prod.snd).map
      fun c => (c, .notice .server c "shutting down")) :=
  foldl_reply ..

/-- `Server.Shutdown`, in every state the loop reaches: one `shutting down` notice for each
client in the nickname index and for no other client, and nothing else changes. -/
theorem shutdown_notifies_registered {s : Server} (reachable : s.Reachable lowerRune methods) :
    ∃ recipients : List ClientId,
      s.shutdown = s.send (recipients.map fun c => (c, .notice .server c "shutting down")) ∧
        recipients.Nodup ∧ ∀ c, c ∈ recipients ↔ ∃ key, s.clients.byNick.get key = some c := by
  refine ⟨_, shutdown_eq s, reachable.lookup.values_nodup, fun c => ?_⟩
  simp only [List.mem_map, GoMap.get_eq_some_iff, Prod.exists, exists_and_right, exists_eq_right]

theorem aliceAndBob_shutdown :
    aliceAndBob.Reachable Char.toLower (specChannels Char.toLower) ∧
      ∃ recipients : List ClientId,
        aliceAndBob.shutdown =
          aliceAndBob.send (recipients.map fun c => (c, .notice .server c "shutting down")) ∧
          recipients.Nodup ∧ ∀ c, c ∈ recipients ↔ ∃ key, aliceAndBob.clients.byNick.get key = some c :=
  ⟨aliceAndBob_reachable, shutdown_notifies_registered aliceAndBob_reachable⟩

end Server

/-! ## Answers from `FindAll` -/

variable {lowerRune : Char → Char} {methods : ChannelMethods}

theorem WhoisCommand.handleServer_eq (s : Server) (client : ClientId) (masks : List String) :
    WhoisCommand.handleServer lowerRune s client masks =
      s.send (masks.flatMap fun mask =>
        if s.clients.findAll lowerRune mask = [] then [(client, .errNoSuchNick mask)]
        else (s.clients.findAll lowerRune mask).map fun c => (client, .rplWhois c)) := by
  refine Server.foldl_send (·.clients) (fun _ _ => rfl) (fun clients mask =>
    if clients.findAll lowerRune mask = [] then [(client, .errNoSuchNick mask)]
    else (clients.findAll lowerRune mask).map fun c => (client, .rplWhois c)) (fun s mask => ?_) _ _
  dsimp only
  split
  next none => rw [if_pos none]; rfl
  next some => rw [if_neg some, Server.foldl_reply]

/-- `WHOIS`, in every state the loop reaches: mask by mask, `ERR_NOSUCHNICK` when no indexed
client's user-host matches the mask as a glob, and otherwise one `RPL_WHOISUSER` for each
indexed client whose user-host matches, each once; nothing else changes. Mask and user-host are
read up to their first NUL, and a mask over SQLite's pattern limit matches nobody. -/
theorem WhoisCommand.handleServer_answers {s : Server} (reachable : s.Reachable lowerRune methods)
    (client : ClientId) (masks : List String) :
    ∃ found : String → List ClientId,
      WhoisCommand.handleServer lowerRune s client masks =
        s.send (masks.flatMap fun mask =>
          if found mask = [] then [(client, .errNoSuchNick mask)]
          else (found mask).map fun c => (client, .rplWhois c)) ∧
      ∀ mask, (found mask).Nodup ∧ ∀ c, c ∈ found mask ↔
        (quoteLike (expandUserHost mask)).utf8ByteSize ≤ likePatternLength ∧
          (∃ key, s.clients.byNick.get key = some c) ∧
            globMatch (cString (expandUserHost mask).data) (cString (s.heap c).userHost.data) :=
  ⟨_, WhoisCommand.handleServer_eq s client masks, fun mask =>
    ⟨ClientLookupSet.findAll_nodup .., reachable.lookup.mem_findAll mask⟩⟩

theorem aliceAndBob_whois :
    Server.aliceAndBob.Reachable Char.toLower (specChannels Char.toLower) ∧
      ∃ found : String → List ClientId,
        WhoisCommand.handleServer Char.toLower Server.aliceAndBob ⟨1⟩ ["al*", "carol"] =
          Server.aliceAndBob.send (["al*", "carol"].flatMap fun mask =>
            if found mask = [] then [(⟨1⟩, .errNoSuchNick mask)]
            else (found mask).map fun c => (⟨1⟩, .rplWhois c)) ∧
        ∀ mask, (found mask).Nodup ∧ ∀ c, c ∈ found mask ↔
          (quoteLike (expandUserHost mask)).utf8ByteSize ≤ likePatternLength ∧
            (∃ key, Server.aliceAndBob.clients.byNick.get key = some c) ∧
              globMatch (cString (expandUserHost mask).data)
                (cString (Server.aliceAndBob.heap c).userHost.data) :=
  ⟨Server.aliceAndBob_reachable,
    WhoisCommand.handleServer_answers Server.aliceAndBob_reachable ⟨1⟩ ["al*", "carol"]⟩

/-- `WHO` with a mask that is neither empty nor a channel name, in every state the loop
reaches: one `RPL_WHOREPLY` without a channel for each indexed client whose user-host matches
the mask as a glob, each once, then `RPL_ENDOFWHO`; nothing else changes. Mask and user-host
are read up to their first NUL, and a mask over SQLite's pattern limit matches nobody. -/
theorem WhoCommand.handleServer_users {s : Server} (reachable : s.Reachable lowerRune methods)
    (client : ClientId) {mask : String} (named : mask ≠ "") (plain : isChannel mask = false) :
    ∃ found : List ClientId,
      WhoCommand.handleServer lowerRune s client mask =
        s.send (found.map (fun c => (client, .rplWhoReply none c)) ++
          [(client, .rplEndOfWho mask)]) ∧
      found.Nodup ∧ ∀ c, c ∈ found ↔
        (quoteLike (expandUserHost mask)).utf8ByteSize ≤ likePatternLength ∧
          (∃ key, s.clients.byNick.get key = some c) ∧
            globMatch (cString (expandUserHost mask).data) (cString (s.heap c).userHost.data) := by
  refine ⟨_, ?_, ClientLookupSet.findAll_nodup .., reachable.lookup.mem_findAll mask⟩
  simp only [WhoCommand.handleServer, if_neg named, plain, Bool.false_eq_true, if_false,
    Server.foldl_reply]
  exact Server.send_send ..

theorem aliceAndBob_who :
    Server.aliceAndBob.Reachable Char.toLower (specChannels Char.toLower) ∧ "b*" ≠ "" ∧
      isChannel "b*" = false ∧
      ∃ found : List ClientId,
        WhoCommand.handleServer Char.toLower Server.aliceAndBob ⟨0⟩ "b*" =
          Server.aliceAndBob.send (found.map (fun c => (⟨0⟩, .rplWhoReply none c)) ++
            [(⟨0⟩, .rplEndOfWho "b*")]) ∧
        found.Nodup ∧ ∀ c, c ∈ found ↔
          (quoteLike (expandUserHost "b*")).utf8ByteSize ≤ likePatternLength ∧
            (∃ key, Server.aliceAndBob.clients.byNick.get key = some c) ∧
              globMatch (cString (expandUserHost "b*").data)
                (cString (Server.aliceAndBob.heap c).userHost.data) :=
  ⟨Server.aliceAndBob_reachable, by decide, by decide,
    WhoCommand.handleServer_users Server.aliceAndBob_reachable ⟨0⟩ (by decide) (by decide)⟩

/-! ## Answers from `Get` -/

theorem IsOnCommand.forall₂_filterMap {heap : ClientId → Client} {clients : ClientLookupSet}
    (inv : ClientLookupSet.Invariant lowerRune heap clients) (nicks : List String) :
    List.Forall₂ (fun nick shown => ∃ key holder, clients.byNick.get key = some holder ∧
        (heap holder).nick = shown ∧ toLower lowerRune shown = toLower lowerRune nick)
      (nicks.filter fun nick => clients.byNick.entries.any fun entry =>
        toLower lowerRune (heap entry.2).nick = toLower lowerRune nick)
      (nicks.filterMap fun nick => (clients.get lowerRune nick).map fun c => (heap c).Nick) := by
  induction nicks with
  | nil => exact .nil
  | cons nick rest ih =>
    rw [List.filter_cons, List.filterMap_cons, inv.any_nick_eq_isSome]
    cases found : clients.get lowerRune nick with
    | none => exact ih
    | some holder =>
      obtain ⟨⟨key, indexed⟩, same⟩ := (inv.get_eq_some_iff nick holder).mp found
      have named : (heap holder).Nick = (heap holder).nick :=
        Client.Nick_of_hasNick (inv.keyed key holder indexed).1
      exact .cons ⟨key, holder, indexed, named.symm, (congrArg (toLower lowerRune) named).trans same⟩ ih

/-- `ISON`, in every state the loop reaches: the reply lists, in the order asked, the queried
nicknames that some indexed client holds up to case, each spelled as its holder spells it. -/
theorem IsOnCommand.handleServer_reports {s : Server} (reachable : s.Reachable lowerRune methods)
    (client : ClientId) (nicks : List String) :
    ∃ shown : List String,
      IsOnCommand.handleServer lowerRune s client nicks = s.reply client (.rplIsOn shown) ∧
        List.Forall₂ (fun nick shown => ∃ key holder, s.clients.byNick.get key = some holder ∧
            (s.heap holder).nick = shown ∧ toLower lowerRune shown = toLower lowerRune nick)
          (nicks.filter fun nick => s.clients.byNick.entries.any fun entry =>
            toLower lowerRune (s.heap entry.2).nick = toLower lowerRune nick) shown :=
  ⟨_, rfl, IsOnCommand.forall₂_filterMap reachable.lookup nicks⟩

theorem aliceAndBob_ison :
    Server.aliceAndBob.Reachable Char.toLower (specChannels Char.toLower) ∧
      ∃ shown : List String,
        IsOnCommand.handleServer Char.toLower Server.aliceAndBob ⟨1⟩ ["ALICE", "carol"] =
          Server.aliceAndBob.reply ⟨1⟩ (.rplIsOn shown) ∧
        List.Forall₂ (fun nick shown => ∃ key holder,
            Server.aliceAndBob.clients.byNick.get key = some holder ∧
            (Server.aliceAndBob.heap holder).nick = shown ∧
            toLower Char.toLower shown = toLower Char.toLower nick)
          (["ALICE", "carol"].filter fun nick => Server.aliceAndBob.clients.byNick.entries.any
            fun entry => toLower Char.toLower (Server.aliceAndBob.heap entry.2).nick =
              toLower Char.toLower nick) shown :=
  ⟨Server.aliceAndBob_reachable,
    IsOnCommand.handleServer_reports Server.aliceAndBob_reachable ⟨1⟩ ["ALICE", "carol"]⟩

/-- `NICK` from a client the index holds, to a valid nickname other than its own, in every
state the loop reaches: when another client holds the nickname up to case, the index is left
alone; otherwise the client's entry moves to the new nickname and every other entry stays. -/
theorem NickCommand.handleServer_moves_entry {s : Server} (reachable : s.Reachable lowerRune methods)
    {key₀ : String} {client : ClientId} (held : s.clients.byNick.get key₀ = some client)
    {nickname : String} (valid : isNickname nickname = true)
    (changed : nickname ≠ (s.heap client).nick) :
    ((∃ other, s.clients.get lowerRune nickname = some other ∧ other ≠ client) →
      (NickCommand.handleServer lowerRune s client nickname).clients = s.clients) ∧
    ((∀ other, s.clients.get lowerRune nickname = some other → other = client) →
      ∀ key other,
        (NickCommand.handleServer lowerRune s client nickname).clients.byNick.get key = some other ↔
          other = client ∧ key = toLower lowerRune nickname ∨
            other ≠ client ∧ s.clients.byNick.get key = some other) :=
  NickCommand.handleServer_index reachable.lookup held valid changed

theorem aliceAndBob_nick :
    Server.aliceAndBob.Reachable Char.toLower (specChannels Char.toLower) ∧
      Server.aliceAndBob.clients.byNick.get "alice" = some ⟨0⟩ ∧ isNickname "carol" = true ∧
      "carol" ≠ (Server.aliceAndBob.heap ⟨0⟩).nick ∧
      ((∃ other, Server.aliceAndBob.clients.get Char.toLower "carol" = some other ∧ other ≠ ⟨0⟩) →
        (NickCommand.handleServer Char.toLower Server.aliceAndBob ⟨0⟩ "carol").clients =
          Server.aliceAndBob.clients) ∧
      ((∀ other, Server.aliceAndBob.clients.get Char.toLower "carol" = some other → other = ⟨0⟩) →
        ∀ key other,
          (NickCommand.handleServer Char.toLower Server.aliceAndBob ⟨0⟩ "carol").clients.byNick.get
              key = some other ↔
            other = ⟨0⟩ ∧ key = toLower Char.toLower "carol" ∨
              other ≠ ⟨0⟩ ∧ Server.aliceAndBob.clients.byNick.get key = some other) :=
  ⟨Server.aliceAndBob_reachable, by decide, by decide, by decide,
    NickCommand.handleServer_moves_entry Server.aliceAndBob_reachable
      (show Server.aliceAndBob.clients.byNick.get "alice" = some ⟨0⟩ by decide) (by decide)
      (by decide)⟩

/-- A `PRIVMSG` to a nickname, in every state the loop reaches: the handler only queues
replies; the message goes to exactly the indexed client whose nickname equals the target up
to case, and the sender gets `ERR_NOSUCHNICK` exactly when there is none. -/
theorem PrivMsgCommand.handleServer_reaches {s : Server} (reachable : s.Reachable lowerRune methods)
    (client : ClientId) {target : String} (direct : isChannel target = false) (message : String) :
    ∃ queued, PrivMsgCommand.handleServer lowerRune methods s client target message =
        s.send queued ∧
      (∀ r, (r, .privMsg (.client client) r message) ∈ queued ↔
        (∃ key, s.clients.byNick.get key = some r) ∧
          toLower lowerRune (s.heap r).nick = toLower lowerRune target) ∧
      ((client, .errNoSuchNick target) ∈ queued ↔ s.clients.get lowerRune target = none) :=
  PrivMsgCommand.handleServer_delivers methods reachable.lookup client direct message

theorem aliceAndBob_privMsg :
    Server.aliceAndBob.Reachable Char.toLower (specChannels Char.toLower) ∧
      isChannel "BOB" = false ∧
      ∃ queued, PrivMsgCommand.handleServer Char.toLower (specChannels Char.toLower)
          Server.aliceAndBob ⟨0⟩ "BOB" "hi" = Server.aliceAndBob.send queued ∧
        (∀ r, (r, .privMsg (.client ⟨0⟩) r "hi") ∈ queued ↔
          (∃ key, Server.aliceAndBob.clients.byNick.get key = some r) ∧
            toLower Char.toLower (Server.aliceAndBob.heap r).nick = toLower Char.toLower "BOB") ∧
        ((⟨0⟩, .errNoSuchNick "BOB") ∈ queued ↔
          Server.aliceAndBob.clients.get Char.toLower "BOB" = none) :=
  ⟨Server.aliceAndBob_reachable, by decide,
    PrivMsgCommand.handleServer_reaches Server.aliceAndBob_reachable ⟨0⟩ (by decide) "hi"⟩

/-- `KILL` from an operator, in every state the loop reaches, of a nickname an indexed client
holds up to case: that client is terminated and leaves the index, and no other client record
changes. -/
theorem KillCommand.handleServer_terminates {s : Server} (reachable : s.Reachable lowerRune methods)
    {client : ClientId} (operator : (s.heap client).flags .operator = true) {nickname : String}
    (comment : String) {target : ClientId} (holder : (∃ key, s.clients.byNick.get key = some target) ∧
      toLower lowerRune (s.heap target).nick = toLower lowerRune nickname) :
    ((KillCommand.handleServer lowerRune methods s client nickname comment).heap target).phase =
        .terminated ∧
      (∀ key, (KillCommand.handleServer lowerRune methods s client nickname comment).clients.byNick.get
        key ≠ some target) ∧
      ∀ y, y ≠ target →
        (KillCommand.handleServer lowerRune methods s client nickname comment).heap y = s.heap y :=
  KillCommand.handleServer_kills methods reachable.lookup operator comment holder

theorem aliceAndBob_kill :
    Server.aliceAndBob.Reachable Char.toLower (specChannels Char.toLower) ∧
      (Server.aliceAndBob.heap ⟨0⟩).flags .operator = true ∧
      ((∃ key, Server.aliceAndBob.clients.byNick.get key = some ⟨1⟩) ∧
        toLower Char.toLower (Server.aliceAndBob.heap ⟨1⟩).nick = toLower Char.toLower "BOB") ∧
      ((KillCommand.handleServer Char.toLower (specChannels Char.toLower) Server.aliceAndBob ⟨0⟩
          "BOB" "flooding").heap ⟨1⟩).phase = .terminated ∧
        (∀ key, (KillCommand.handleServer Char.toLower (specChannels Char.toLower)
          Server.aliceAndBob ⟨0⟩ "BOB" "flooding").clients.byNick.get key ≠ some ⟨1⟩) ∧
        ∀ y, y ≠ ⟨1⟩ → (KillCommand.handleServer Char.toLower (specChannels Char.toLower)
          Server.aliceAndBob ⟨0⟩ "BOB" "flooding").heap y = Server.aliceAndBob.heap y :=
  ⟨Server.aliceAndBob_reachable, by decide, ⟨⟨"bob", by decide⟩, by decide⟩,
    KillCommand.handleServer_terminates Server.aliceAndBob_reachable (by decide) "flooding"
      ⟨⟨"bob", by decide⟩, by decide⟩⟩

/-! ## `LIST` -/

theorem ListCommand.handleServer_eq (s : Server) (client : ClientId) (channels : List String) :
    ListCommand.handleServer lowerRune s client channels "" =
      s.send ((if channels.length = 0 then
          (s.channels.entries.map Prod.snd).flatMap fun channel =>
            if !(s.heap client).flags .operator && channel.flags .privateMode then []
            else [(client, .rplList channel.name)]
        else channels.flatMap fun name =>
          match s.getChannel lowerRune name with
          | some channel =>
            if !(s.heap client).flags .operator && channel.flags .privateMode then
              [(client, .errNoSuchChannel name)]
            else [(client, .rplList channel.name)]
          | none => [(client, .errNoSuchChannel name)]) ++ [(client, .rplListEnd)]) := by
  unfold ListCommand.handleServer
  rw [if_neg (not_not.mpr rfl)]
  dsimp only
  split
  next =>
    rw [Server.foldl_send (fun _ => ()) (fun _ _ => rfl) (fun _ channel =>
      if !(s.heap client).flags .operator && channel.flags .privateMode then []
      else [(client, .rplList channel.name)]) fun s channel => ?_]
    · exact Server.send_send ..
    · dsimp only
      split
      · exact (Server.send_nil s).symm
      · rfl
  next =>
    rw [Server.foldl_send (·.channels) (fun _ _ => rfl) (fun table name =>
      match table.get (toLower lowerRune name) with
      | some channel =>
        if !(s.heap client).flags .operator && channel.flags .privateMode then
          [(client, .errNoSuchChannel name)]
        else [(client, .rplList channel.name)]
      | none => [(client, .errNoSuchChannel name)]) fun s name => ?_]
    · exact Server.send_send ..
    · dsimp only [Server.getChannel]
      cases s.channels.get (toLower lowerRune name) with
      | none => rfl
      | some channel =>
        dsimp only
        rw [apply_ite (Server.send s)]
        rfl

/-- A channel `LIST` shows: the requester holds `Operator`, or the channel is not private. -/
theorem not_hidden_iff {operator secret : Bool} :
    ¬(!operator && secret) = true ↔ operator = true ∨ secret = false := by
  cases operator <;> cases secret <;> decide

/-- `LIST` without a target server: every reply goes to the requester, the last being
`RPL_LISTEND`. An `RPL_LIST` names a channel of the table that is not private or whose
requester holds `Operator`; without arguments every such channel is listed; with arguments,
a name under which there is no channel, or a private one and the requester lacks
`Operator`, gets `ERR_NOSUCHCHANNEL`. -/
theorem ListCommand.handleServer_hides_private (s : Server) (client : ClientId)
    (channels : List String) :
    ∃ queued : Outbox,
      ListCommand.handleServer lowerRune s client channels "" =
        s.send (queued ++ [(client, .rplListEnd)]) ∧
      (∀ r ∈ queued, r.1 = client) ∧
      (∀ name, (client, .rplList name) ∈ queued → ∃ channel ∈ s.channels.entries.map Prod.snd,
        channel.name = name ∧
          ((s.heap client).flags .operator = true ∨ channel.flags .privateMode = false)) ∧
      (channels = [] → ∀ channel ∈ s.channels.entries.map Prod.snd,
        ((s.heap client).flags .operator = true ∨ channel.flags .privateMode = false) →
          (client, .rplList channel.name) ∈ queued) ∧
      (∀ name ∈ channels, (∀ channel, s.getChannel lowerRune name = some channel →
        (s.heap client).flags .operator = false ∧ channel.flags .privateMode = true) →
          (client, .errNoSuchChannel name) ∈ queued) := by
  refine ⟨_, ListCommand.handleServer_eq s client channels, ?_, ?_, ?_, ?_⟩
  · intro r member
    split_ifs at member <;> obtain ⟨_, -, member⟩ := List.mem_flatMap.mp member
    · split_ifs at member
      · exact absurd member (List.not_mem_nil _)
      · rw [List.mem_singleton.mp member]
    · split at member
      · split_ifs at member <;> rw [List.mem_singleton.mp member]
      · rw [List.mem_singleton.mp member]
  · intro name member
    split_ifs at member <;> obtain ⟨source, listed, member⟩ := List.mem_flatMap.mp member
    · split_ifs at member with hidden
      · simp at member
      · obtain rfl := Reply.rplList.inj (Prod.mk.inj (List.mem_singleton.mp member)).2
        exact ⟨source, listed, rfl, not_hidden_iff.mp hidden⟩
    · split at member
      next channel found =>
        split_ifs at member with hidden
        · simp at member
        · obtain rfl := Reply.rplList.inj (Prod.mk.inj (List.mem_singleton.mp member)).2
          exact ⟨channel, List.mem_map.mpr ⟨_, (GoMap.get_eq_some_iff _ _ _).mp found, rfl⟩, rfl,
            not_hidden_iff.mp hidden⟩
      · simp at member
  · rintro rfl channel member visible
    rw [if_pos List.length_nil]
    exact List.mem_flatMap.mpr ⟨channel, member, by simp [not_hidden_iff.mpr visible]⟩
  · intro name member hidden
    rw [if_neg (by simp [List.ne_nil_of_mem member])]
    refine List.mem_flatMap.mpr ⟨name, member, ?_⟩
    cases found : s.getChannel lowerRune name with
    | none => simp
    | some channel =>
      obtain ⟨operator, secret⟩ := hidden channel found
      simp [operator, secret]

end Ergo.Irc
