import ErgoIrc.GoMap
import ErgoIrc.ClientDB

/-! `ClientLookupSet`, the nickname index: a map from lowercased nickname to client and
its SQL mirror, the `client` table of `ClientDB`. The map is keyed case-insensitively,
the table's `UNIQUE nickname` column case-sensitively; the invariant below ties the two
together so that the table's constraints never fire.

`strings.ToLower` maps every rune through `unicode.ToLower`. That rune map is a
parameter here (`lowerRune`): no result depends on which map it is. -/
namespace Ergo.Irc

/-- `strings.ToLower`. -/
def toLower (lowerRune : Char → Char) (s : String) : String := ⟨s.data.map lowerRune⟩

theorem toLower_eq_empty {lowerRune : Char → Char} {s : String} :
    toLower lowerRune s = toLower lowerRune "" ↔ s = "" := by
  simp only [String.ext_iff, toLower, List.map_nil, List.map_eq_nil_iff]

structure ClientLookupSet where
  byNick : GoMap String ClientId
  db : ClientDB

def newClientLookupSet : ClientLookupSet := ⟨.empty, newClientDB⟩

inductive LookupError where
  | nickMissing
  | nicknameInUse
  | nicknameMismatch
  deriving DecidableEq, Repr

/-- The texts of `ErrNickMissing`, `ErrNicknameInUse` and `ErrNicknameMismatch`. -/
def LookupError.message : LookupError → String
  | .nickMissing => "nick missing"
  | .nicknameInUse => "nickname in use"
  | .nicknameMismatch => "nickname mismatch"

namespace ClientLookupSet

variable (lowerRune : Char → Char)

def get (clients : ClientLookupSet) (nick : String) : Option ClientId :=
  clients.byNick.get (toLower lowerRune nick)

/-- `ClientLookupSet.Add`: the error it returns, and the set after it. -/
def add (clients : ClientLookupSet) (heap : ClientId → Client) (client : ClientId) :
    Option LookupError × ClientLookupSet :=
  if !(heap client).hasNick then (some .nickMissing, clients)
  else if (clients.get lowerRune (heap client).nick).isSome then (some .nicknameInUse, clients)
  else (none, ⟨clients.byNick.set (toLower lowerRune (heap client).nick) client,
    clients.db.add (heap client)⟩)

/-- `ClientLookupSet.Remove`; the identity test is the source's pointer comparison. -/
def remove (clients : ClientLookupSet) (heap : ClientId → Client) (client : ClientId) :
    Option LookupError × ClientLookupSet :=
  if !(heap client).hasNick then (some .nickMissing, clients)
  else if clients.get lowerRune (heap client).nick ≠ some client then
    (some .nicknameMismatch, clients)
  else (none, ⟨clients.byNick.delete (toLower lowerRune (heap client).nick),
    clients.db.remove (heap client)⟩)

variable {lowerRune} {clients : ClientLookupSet} {heap : ClientId → Client} {client : ClientId}

theorem add_error {error : LookupError}
    (failed : (clients.add lowerRune heap client).1 = some error) :
    (clients.add lowerRune heap client).2 = clients := by
  unfold add at *
  split_ifs at * <;> simp_all

theorem add_ok (added : (clients.add lowerRune heap client).1 = none) :
    (heap client).hasNick ∧ clients.get lowerRune (heap client).nick = none ∧
      (clients.add lowerRune heap client).2 =
        ⟨clients.byNick.set (toLower lowerRune (heap client).nick) client,
          clients.db.add (heap client)⟩ := by
  unfold add at *
  split_ifs at *
  simp_all

theorem remove_error {error : LookupError}
    (failed : (clients.remove lowerRune heap client).1 = some error) :
    (clients.remove lowerRune heap client).2 = clients := by
  unfold remove at *
  split_ifs at * <;> simp_all

theorem remove_ok (removed : (clients.remove lowerRune heap client).1 = none) :
    (heap client).hasNick ∧ clients.get lowerRune (heap client).nick = some client ∧
      (clients.remove lowerRune heap client).2 =
        ⟨clients.byNick.delete (toLower lowerRune (heap client).nick),
          clients.db.remove (heap client)⟩ := by
  unfold remove at *
  split_ifs at *
  simp_all

/-! ## The representation invariant -/

/-- What ties the map to the table: every entry sits under its client's lowercased
nickname, and the table holds exactly the rows of the indexed clients. -/
structure Invariant (lowerRune : Char → Char) (heap : ClientId → Client)
    (clients : ClientLookupSet) : Prop where
  keyed : ∀ key client, clients.byNick.get key = some client →
    (heap client).hasNick ∧ key = toLower lowerRune (heap client).nick
  mirrored : ∀ row, row ∈ clients.db.rows ↔
    ∃ key client, clients.byNick.get key = some client ∧ row = (heap client).row
  rows_nodup : clients.db.rows.Nodup

theorem invariant_new : Invariant lowerRune heap newClientLookupSet :=
  ⟨by simp [newClientLookupSet], by simp [newClientLookupSet, newClientDB], List.nodup_nil⟩

namespace Invariant

variable (inv : Invariant lowerRune heap clients)
include inv

/-- An indexed client is found under its own nickname. -/
theorem get_nick {key : String} (found : clients.byNick.get key = some client) :
    clients.get lowerRune (heap client).nick = some client := by
  rw [get, ← (inv.keyed key client found).2, found]

/-- A row's nickname is a nickname the index finds. -/
theorem row_nickname {row : ClientRow} (member : row ∈ clients.db.rows) :
    ∃ other, clients.get lowerRune row.nickname = some other ∧ row = (heap other).row := by
  obtain ⟨key, other, found, rfl⟩ := (inv.mirrored row).mp member
  refine ⟨other, ?_, rfl⟩
  rw [Client.row, Client.Nick_of_hasNick (inv.keyed key other found).1]
  exact inv.get_nick found

/-- No row carries a nickname that the index does not know, up to case. -/
theorem nickname_fresh {nick : String} (unknown : clients.get lowerRune nick = none) :
    ∀ row ∈ clients.db.rows, row.nickname ≠ nick := by
  intro row member same
  obtain ⟨other, found, -⟩ := inv.row_nickname member
  rw [same, unknown] at found
  cases found

/-- Indexed clients have distinct rows. -/
theorem row_injective {key key' : String} {other : ClientId}
    (found : clients.byNick.get key = some client) (found' : clients.byNick.get key' = some other)
    (same : (heap client).row = (heap other).row) : client = other := by
  have nicks : (heap client).nick = (heap other).nick := by
    have := congrArg ClientRow.nickname same
    simpa [Client.row, Client.Nick_of_hasNick (inv.keyed _ _ found).1,
      Client.Nick_of_hasNick (inv.keyed _ _ found').1] using this
  have := inv.get_nick found
  rw [nicks, inv.get_nick found'] at this
  exact (Option.some.inj this).symm

/-- The rows that `DELETE ... WHERE nickname = ?` keeps, for an indexed client. -/
theorem delete_rows (indexed : clients.get lowerRune (heap client).nick = some client) :
    clients.db.rows.filter (·.nickname ≠ (heap client).Nick) =
      clients.db.rows.erase (heap client).row := by
  rw [inv.rows_nodup.erase_eq_filter]
  apply List.filter_congr
  intro row member
  obtain ⟨other, found, rfl⟩ := inv.row_nickname member
  have named := (inv.keyed _ _ indexed).1
  have same_row : (heap other).row.nickname = (heap client).Nick ↔
      (heap other).row = (heap client).row := by
    refine ⟨fun same => ?_, fun same => by rw [same]; rfl⟩
    rw [same, Client.Nick_of_hasNick named, indexed] at found
    cases found
    rfl
  rw [Bool.eq_iff_iff, decide_eq_true_iff, bne_iff_ne]
  exact not_congr same_row

/-- The table after a successful `Add`. -/
theorem add_rows (named : (heap client).hasNick)
    (unknown : clients.get lowerRune (heap client).nick = none) :
    (clients.db.add (heap client)).rows = clients.db.rows ++ [(heap client).row] :=
  ClientDB.add_rows_of_fresh (by
    rw [Client.Nick_of_hasNick named]
    exact inv.nickname_fresh unknown)

/-- The `INSERT` of a successful `Add` never meets the `UNIQUE` constraint. -/
theorem insert_ok (named : (heap client).hasNick)
    (unknown : clients.get lowerRune (heap client).nick = none) :
    insertRow clients.db.rows (heap client).row = .ok (clients.db.rows ++ [(heap client).row]) :=
  insertRow_of_fresh (by
    simpa [Client.row, Client.Nick_of_hasNick named] using inv.nickname_fresh unknown)

/-- `Add` keeps the invariant. -/
theorem add : Invariant lowerRune heap (clients.add lowerRune heap client).2 := by
  cases result : (clients.add lowerRune heap client).1 with
  | some error => rwa [add_error result]
  | none =>
    obtain ⟨named, unknown, added⟩ := add_ok result
    have fresh : clients.byNick.get (toLower lowerRune (heap client).nick) = none := unknown
    rw [added]
    refine ⟨?_, ?_, ?_⟩
    · intro key other found
      rw [GoMap.get_set] at found
      split_ifs at found with same
      · cases found
        exact ⟨named, same⟩
      · exact inv.keyed key other found
    · intro row
      rw [inv.add_rows named unknown, List.mem_append, inv.mirrored, List.mem_singleton]
      constructor
      · rintro (⟨key, other, found, rfl⟩ | rfl)
        · refine ⟨key, other, ?_, rfl⟩
          rwa [GoMap.get_set, if_neg (fun same => by rw [same, fresh] at found; cases found)]
        · exact ⟨toLower lowerRune (heap client).nick, client, by simp, rfl⟩
      · rintro ⟨key, other, found, rfl⟩
        rw [GoMap.get_set] at found
        split_ifs at found
        · cases found
          exact Or.inr rfl
        · exact Or.inl ⟨key, other, found, rfl⟩
    · rw [inv.add_rows named unknown, List.nodup_append]
      refine ⟨inv.rows_nodup, List.nodup_singleton _, List.disjoint_singleton.mpr fun member => ?_⟩
      exact inv.nickname_fresh unknown _ member (by simp [Client.row, Client.Nick_of_hasNick named])

/-- `Remove` keeps the invariant. -/
theorem remove : Invariant lowerRune heap (clients.remove lowerRune heap client).2 := by
  cases result : (clients.remove lowerRune heap client).1 with
  | some error => rwa [remove_error result]
  | none =>
    obtain ⟨named, indexed, removed⟩ := remove_ok result
    rw [removed]
    have kept : ∀ key other, clients.byNick.get key = some other →
        (key = toLower lowerRune (heap client).nick ↔ other = client) := by
      intro key other found
      refine ⟨fun same => ?_, fun same => ?_⟩
      · rw [same] at found
        exact Option.some.inj (found.symm.trans indexed)
      · rw [(inv.keyed key other found).2, same]
    refine ⟨?_, ?_, ?_⟩
    · intro key other found
      rw [GoMap.get_delete] at found
      split_ifs at found
      exact inv.keyed key other found
    · intro row
      simp only [ClientDB.remove, inv.delete_rows indexed, GoMap.get_delete]
      rw [inv.rows_nodup.mem_erase_iff, inv.mirrored]
      constructor
      · rintro ⟨different, key, other, found, rfl⟩
        refine ⟨key, other, ?_, rfl⟩
        rwa [if_neg fun same => different (by rw [(kept key other found).mp same])]
      · rintro ⟨key, other, found, rfl⟩
        split_ifs at found with same
        refine ⟨fun equal => same ?_, key, other, found, rfl⟩
        exact (kept key other found).mpr (inv.row_injective found (by simpa using indexed) equal)
    · simp only [ClientDB.remove, inv.delete_rows indexed]
      exact inv.rows_nodup.erase _

omit inv in
/-- The heap may change between calls, but not in the nickname or user-host of a client
that is in the set. -/
theorem retarget {heap' : ClientId → Client} (inv : Invariant lowerRune heap clients)
    (stable : ∀ key other, clients.byNick.get key = some other →
      (heap' other).nick = (heap other).nick ∧ (heap' other).userHost = (heap other).userHost) :
    Invariant lowerRune heap' clients := by
  have row_eq : ∀ key other, clients.byNick.get key = some other →
      (heap' other).row = (heap other).row := by
    intro key other found
    simp [Client.row, Client.Nick, Client.hasNick, (stable key other found).1,
      (stable key other found).2]
  refine ⟨fun key other found => ?_, fun row => ?_, inv.rows_nodup⟩
  · simpa [Client.hasNick, (stable key other found).1] using inv.keyed key other found
  · rw [inv.mirrored]
    constructor <;> rintro ⟨key, other, found, rfl⟩
    · exact ⟨key, other, found, (row_eq key other found).symm⟩
    · exact ⟨key, other, found, row_eq key other found⟩

end Invariant

variable (lowerRune) in
/-- The states of the set after any sequence of `Add` and `Remove` calls from
`NewClientLookupSet()`, successful or not. Between calls the client objects may change,
but not in the nickname or user-host of a client that is in the set. -/
inductive Reachable : (ClientId → Client) → ClientLookupSet → Prop
  | new (heap : ClientId → Client) : Reachable heap newClientLookupSet
  | add {heap clients} (client : ClientId) : Reachable heap clients →
      Reachable heap (clients.add lowerRune heap client).2
  | remove {heap clients} (client : ClientId) : Reachable heap clients →
      Reachable heap (clients.remove lowerRune heap client).2
  | retarget {heap heap' clients} : Reachable heap clients →
      (∀ key other, clients.byNick.get key = some other →
        (heap' other).nick = (heap other).nick ∧ (heap' other).userHost = (heap other).userHost) →
      Reachable heap' clients

theorem Reachable.invariant (reachable : Reachable lowerRune heap clients) :
    Invariant lowerRune heap clients := by
  induction reachable with
  | new => exact invariant_new
  | add _ _ inv => exact inv.add
  | remove _ _ inv => exact inv.remove
  | retarget _ stable inv => exact inv.retarget stable

/-- The invariant as the set's callers read it: each entry is keyed by its client's
lowercased nickname, no client sits under two keys, and the table holds one row per indexed
client and no other row, so that the `INSERT` of an `Add` that passes its checks never
meets the `UNIQUE` constraint and the `DELETE` of a `Remove` that passes its checks
deletes exactly that client's row. -/
structure Representation (lowerRune : Char → Char) (heap : ClientId → Client)
    (clients : ClientLookupSet) : Prop where
  keyed : ∀ key other, clients.byNick.get key = some other →
    (heap other).hasNick ∧ key = toLower lowerRune (heap other).nick
  unshared : ∀ key key' other, clients.byNick.get key = some other →
    clients.byNick.get key' = some other → key = key'
  one_row : ∀ key other, clients.byNick.get key = some other →
    clients.db.rows.count (heap other).row = 1
  no_other_rows : ∀ row ∈ clients.db.rows, ∃ key other,
    clients.byNick.get key = some other ∧ row = (heap other).row
  insert_ok : ∀ other, (heap other).hasNick → clients.get lowerRune (heap other).nick = none →
    insertRow clients.db.rows (heap other).row = .ok (clients.db.rows ++ [(heap other).row])
  delete_exact : ∀ other, clients.get lowerRune (heap other).nick = some other →
    clients.db.rows.filter (·.nickname ≠ (heap other).Nick) =
      clients.db.rows.erase (heap other).row

theorem lookupSet_representation (reachable : Reachable lowerRune heap clients) :
    Representation lowerRune heap clients := by
  have inv := reachable.invariant
  refine ⟨inv.keyed, fun key key' other found found' => ?_, fun key other found => ?_,
    fun row member => (inv.mirrored row).mp member, fun other => inv.insert_ok,
    fun other => inv.delete_rows⟩
  · rw [(inv.keyed key other found).2, (inv.keyed key' other found').2]
  · exact List.count_eq_one_of_mem inv.rows_nodup ((inv.mirrored _).mpr ⟨key, other, found, rfl⟩)

/-- A client with a nickname and a user, at every address. -/
def aliceHeap : ClientId → Client :=
  fun _ => { Client.new "example.net" .registration 0 with nick := "alice", username := "alice" }

theorem lookupSet_representation_alice :
    Reachable Char.toLower aliceHeap (newClientLookupSet.add Char.toLower aliceHeap ⟨0⟩).2 ∧
      Representation Char.toLower aliceHeap
        (newClientLookupSet.add Char.toLower aliceHeap ⟨0⟩).2 :=
  ⟨.add ⟨0⟩ (.new aliceHeap), lookupSet_representation (.add ⟨0⟩ (.new aliceHeap))⟩

/-! ## The contract of `Add` and `Remove` -/

theorem add_nickMissing_iff :
    (clients.add lowerRune heap client).1 = some .nickMissing ↔ ¬(heap client).hasNick := by
  unfold add
  split_ifs <;> simp_all

/-- Under the invariant, `Get(nick)` finds a client iff an indexed client's nickname
equals `nick` up to case. -/
theorem Invariant.get_isSome_iff (inv : Invariant lowerRune heap clients) (nick : String) :
    (clients.get lowerRune nick).isSome ↔ ∃ key other, clients.byNick.get key = some other ∧
      toLower lowerRune (heap other).nick = toLower lowerRune nick := by
  constructor
  · intro found
    obtain ⟨other, found⟩ := Option.isSome_iff_exists.mp found
    exact ⟨_, other, found, ((inv.keyed _ _ found).2).symm⟩
  · rintro ⟨key, other, found, same⟩
    rw [get, ← same, ← (inv.keyed key other found).2, found]
    rfl

/-- Under the invariant, `Get(nick)` finds exactly the indexed client whose nickname equals
`nick` up to case. -/
theorem Invariant.get_eq_some_iff (inv : Invariant lowerRune heap clients) (nick : String)
    (other : ClientId) :
    clients.get lowerRune nick = some other ↔ (∃ key, clients.byNick.get key = some other) ∧
      toLower lowerRune (heap other).nick = toLower lowerRune nick := by
  refine ⟨fun found => ⟨⟨_, found⟩, (inv.keyed _ other found).2.symm⟩,
    fun ⟨⟨key, found⟩, same⟩ => ?_⟩
  rw [get, ← same, ← (inv.keyed key other found).2, found]

/-- An indexed nickname is never empty, so an empty nickname is never in use. -/
theorem Invariant.not_inUse_empty (inv : Invariant lowerRune heap clients) {nick : String}
    (empty : nick = "") : ¬∃ key other, clients.byNick.get key = some other ∧
      toLower lowerRune (heap other).nick = toLower lowerRune nick := by
  rintro ⟨key, other, found, same⟩
  have named := (inv.keyed key other found).1
  rw [empty, toLower_eq_empty] at same
  simp [Client.hasNick, same] at named

theorem Invariant.add_inUse_iff (inv : Invariant lowerRune heap clients) :
    (clients.add lowerRune heap client).1 = some .nicknameInUse ↔
      ∃ key other, clients.byNick.get key = some other ∧
        toLower lowerRune (heap other).nick = toLower lowerRune (heap client).nick := by
  rw [← inv.get_isSome_iff]
  unfold ClientLookupSet.add
  split_ifs with named
  · simp only [Option.some.injEq, reduceCtorEq, false_iff]
    rw [inv.get_isSome_iff]
    exact inv.not_inUse_empty (by simpa [Client.hasNick] using named)
  · simp_all
  · simp_all

theorem Invariant.add_ok_iff (inv : Invariant lowerRune heap clients) :
    (clients.add lowerRune heap client).1 = none ↔ (heap client).hasNick ∧
      ¬∃ key other, clients.byNick.get key = some other ∧
        toLower lowerRune (heap other).nick = toLower lowerRune (heap client).nick := by
  rw [← inv.get_isSome_iff]
  unfold ClientLookupSet.add
  split_ifs <;> simp_all

/-- After a successful `Add`, `Get` finds the new client exactly under its nickname up to
case, and answers as before for every other nickname. -/
theorem Invariant.get_after_add (inv : Invariant lowerRune heap clients)
    (added : (clients.add lowerRune heap client).1 = none) (nick : String) :
    ((clients.add lowerRune heap client).2.get lowerRune nick = some client ↔
      toLower lowerRune nick = toLower lowerRune (heap client).nick) ∧
    (toLower lowerRune nick ≠ toLower lowerRune (heap client).nick →
      (clients.add lowerRune heap client).2.get lowerRune nick = clients.get lowerRune nick) := by
  obtain ⟨named, unknown, result⟩ := add_ok added
  simp only [result, get, GoMap.get_set]
  refine ⟨⟨fun found => ?_, fun same => by simp [same]⟩, fun different => by simp [different]⟩
  split_ifs at found with same
  · exact same
  · have := inv.get_nick found
    rw [unknown] at this
    cases this

/-- After a successful `Remove`, only the client's own entry and its own row are gone. -/
theorem Invariant.after_remove (inv : Invariant lowerRune heap clients)
    (removed : (clients.remove lowerRune heap client).1 = none) :
    (∀ key, (clients.remove lowerRune heap client).2.byNick.get key =
      if key = toLower lowerRune (heap client).nick then none else clients.byNick.get key) ∧
    (clients.remove lowerRune heap client).2.db.rows = clients.db.rows.erase (heap client).row := by
  obtain ⟨-, indexed, result⟩ := remove_ok removed
  rw [result]
  exact ⟨fun key => GoMap.get_delete _ _ _, inv.delete_rows indexed⟩

theorem remove_ok_iff :
    (clients.remove lowerRune heap client).1 = none ↔
      (heap client).hasNick ∧ clients.get lowerRune (heap client).nick = some client := by
  unfold remove
  split_ifs <;> simp_all

/-- `Remove` leaves every entry of another client in place, whatever it returns. -/
theorem Invariant.remove_keeps_others (inv : Invariant lowerRune heap clients)
    {key : String} {other : ClientId} (found : clients.byNick.get key = some other)
    (different : other ≠ client) :
    (clients.remove lowerRune heap client).2.byNick.get key = some other := by
  cases result : (clients.remove lowerRune heap client).1 with
  | some error => rwa [remove_error result]
  | none =>
    rw [inv.after_remove result |>.1, if_neg]
    · exact found
    · intro same
      obtain ⟨-, indexed, -⟩ := remove_ok result
      rw [get, ← same, found] at indexed
      exact different (Option.some.inj indexed)

/-- The contract of `Add` and `Remove`: which error each returns, what a success
changes, and that an error changes nothing. -/
structure AddRemoveContract (lowerRune : Char → Char) (heap : ClientId → Client)
    (clients : ClientLookupSet) (client : ClientId) : Prop where
  add_nickMissing : (clients.add lowerRune heap client).1 = some .nickMissing ↔
    ¬(heap client).hasNick
  add_inUse : (clients.add lowerRune heap client).1 = some .nicknameInUse ↔
    ∃ key other, clients.byNick.get key = some other ∧
      toLower lowerRune (heap other).nick = toLower lowerRune (heap client).nick
  add_ok : (clients.add lowerRune heap client).1 = none ↔ (heap client).hasNick ∧
    ¬∃ key other, clients.byNick.get key = some other ∧
      toLower lowerRune (heap other).nick = toLower lowerRune (heap client).nick
  get_after_add : (clients.add lowerRune heap client).1 = none → ∀ nick,
    ((clients.add lowerRune heap client).2.get lowerRune nick = some client ↔
      toLower lowerRune nick = toLower lowerRune (heap client).nick) ∧
    (toLower lowerRune nick ≠ toLower lowerRune (heap client).nick →
      (clients.add lowerRune heap client).2.get lowerRune nick = clients.get lowerRune nick)
  remove_ok : (clients.remove lowerRune heap client).1 = none ↔
    (heap client).hasNick ∧ clients.get lowerRune (heap client).nick = some client
  after_remove : (clients.remove lowerRune heap client).1 = none →
    (∀ key, (clients.remove lowerRune heap client).2.byNick.get key =
      if key = toLower lowerRune (heap client).nick then none else clients.byNick.get key) ∧
    (clients.remove lowerRune heap client).2.db.rows = clients.db.rows.erase (heap client).row
  add_error_unchanged : ∀ error, (clients.add lowerRune heap client).1 = some error →
    (clients.add lowerRune heap client).2 = clients
  remove_error_unchanged : ∀ error, (clients.remove lowerRune heap client).1 = some error →
    (clients.remove lowerRune heap client).2 = clients
  remove_keeps_others : ∀ key other, clients.byNick.get key = some other → other ≠ client →
    (clients.remove lowerRune heap client).2.byNick.get key = some other

theorem add_remove_contract (inv : Invariant lowerRune heap clients) (client : ClientId) :
    AddRemoveContract lowerRune heap clients client :=
  ⟨add_nickMissing_iff, inv.add_inUse_iff, inv.add_ok_iff, inv.get_after_add, remove_ok_iff,
    inv.after_remove, fun _ => add_error, fun _ => remove_error,
    fun _ _ => inv.remove_keeps_others⟩

/-- The contract for the client at address 1, named `alice` like the client at address 0 that
the set already holds. -/
theorem add_remove_contract_alice :
    Invariant Char.toLower aliceHeap (newClientLookupSet.add Char.toLower aliceHeap ⟨0⟩).2 ∧
      AddRemoveContract Char.toLower aliceHeap
        (newClientLookupSet.add Char.toLower aliceHeap ⟨0⟩).2 ⟨1⟩ :=
  have inv := (Reachable.add ⟨0⟩ (.new aliceHeap)).invariant
  ⟨inv, add_remove_contract inv ⟨1⟩⟩

/-! ## The entries after a call, for the server's use of the set -/

/-- `Add` reads the client's record only through its nickname and its user host. -/
theorem add_congr {heap' : ClientId → Client} (nick : (heap' client).nick = (heap client).nick)
    (userHost : (heap' client).userHost = (heap client).userHost) :
    clients.add lowerRune heap' client = clients.add lowerRune heap client := by
  have row : (heap' client).row = (heap client).row := by
    simp only [Client.row, Client.Nick, Client.hasNick, nick, userHost]
  simp only [add, ClientDB.add, Client.hasNick, nick, row]

/-- An entry after `Add` is an entry before it or the added client. -/
theorem add_get_some {key : String} {other : ClientId}
    (found : (clients.add lowerRune heap client).2.byNick.get key = some other) :
    clients.byNick.get key = some other ∨ other = client := by
  cases result : (clients.add lowerRune heap client).1 with
  | some error => exact .inl (by rwa [add_error result] at found)
  | none =>
    rw [(add_ok result).2.2, GoMap.get_set] at found
    split_ifs at found
    · exact .inr (Option.some.inj found).symm
    · exact .inl found

/-- `Remove` makes no entry. -/
theorem remove_get_some {key : String} {other : ClientId}
    (found : (clients.remove lowerRune heap client).2.byNick.get key = some other) :
    clients.byNick.get key = some other := by
  cases result : (clients.remove lowerRune heap client).1 with
  | some error => rwa [remove_error result] at found
  | none =>
    rw [(remove_ok result).2.2, GoMap.get_delete] at found
    split_ifs at found
    exact found

/-- After `Remove`, whatever it returns, the client is in no entry: an indexed client sits
under its own nickname, so its `Remove` passes its checks. -/
theorem Invariant.remove_unindexed (inv : Invariant lowerRune heap clients) (key : String) :
    (clients.remove lowerRune heap client).2.byNick.get key ≠ some client := by
  intro found
  have before := remove_get_some found
  have removed : (clients.remove lowerRune heap client).1 = none :=
    remove_ok_iff.mpr ⟨(inv.keyed key client before).1, inv.get_nick before⟩
  rw [(inv.after_remove removed).1, if_pos (inv.keyed key client before).2] at found
  cases found

/-- `Remove` of an indexed client, a new record for it, and `Add`, when no other client
holds the new nickname up to case: the client's entry moves to the new nickname, and every
other entry stays. -/
theorem Invariant.move (inv : Invariant lowerRune heap clients) {key₀ : String}
    (held : clients.byNick.get key₀ = some client) {c : Client} (named : c.hasNick)
    (free : ∀ other, clients.get lowerRune c.nick = some other → other = client)
    (key : String) (other : ClientId) :
    ((clients.remove lowerRune heap client).2.add lowerRune (Function.update heap client c)
        client).2.byNick.get key = some other ↔
      other = client ∧ key = toLower lowerRune c.nick ∨
        other ≠ client ∧ clients.byNick.get key = some other := by
  obtain ⟨-, old⟩ := inv.keyed key₀ client held
  have removed := (inv.after_remove (remove_ok_iff.mpr
    ⟨(inv.keyed key₀ client held).1, inv.get_nick held⟩)).1
  have own {key : String} (found : clients.byNick.get key = some client) : key = key₀ := by
    rw [old, (inv.keyed key client found).2]
  have unknown : (clients.remove lowerRune heap client).2.get lowerRune c.nick = none := by
    rw [get, removed]
    split_ifs with same
    · rfl
    · cases found : clients.byNick.get (toLower lowerRune c.nick) with
      | none => rfl
      | some y =>
        obtain rfl := free y found
        exact absurd (old ▸ own found) same
  have accepted : ((clients.remove lowerRune heap client).2.add lowerRune
      (Function.update heap client c) client).1 = none := by
    unfold ClientLookupSet.add
    simp [named, unknown]
  rw [(add_ok accepted).2.2, Function.update_same, GoMap.get_set, removed, ← old]
  by_cases new : key = toLower lowerRune c.nick
  · subst new
    simp only [if_true, Option.some.injEq, and_true]
    exact ⟨fun same => .inl same.symm,
      fun moved => moved.elim Eq.symm fun ⟨different, found⟩ => absurd (free other found) different⟩
  · rw [if_neg new]
    simp only [new, and_false, false_or]
    by_cases stale : key = key₀
    · rw [if_pos stale, stale, held]
      simp only [reduceCtorEq, false_iff, not_and]
      exact fun different found => different (Option.some.inj found).symm
    · rw [if_neg stale]
      exact ⟨fun found => ⟨fun same => stale (own (same ▸ found)), found⟩, And.right⟩

end ClientLookupSet

end Ergo.Irc
