import ErgoIrc.LookupSet
import ErgoIrc.Sqlite

/-! `ClientLookupSet.FindAll` and `ClientLookupSet.Find`: a user-host mask is completed by
`ExpandUserHost`, quoted by `QuoteLike`, and sent as the pattern of a `LIKE` query over the
`client` table; each nickname the query returns is looked up again in the map. SQLite reads the
pattern and each user-host up to its first NUL and refuses a pattern of more than 50000 bytes,
so over a reachable set `FindAll` answers exactly the indexed clients whose user-host, so read,
matches the mask, so read, as a glob, and nobody for a longer mask. `Find`'s query text has
`ESCAPE \` where `FindAll`'s has `ESCAPE '\'`: a bare backslash is no SQL token, the query
never prepares, and `Find` returns `nil` for every mask. -/
namespace Ergo.Irc

namespace ClientLookupSet

variable (lowerRune : Char → Char)

/-- The text of `FindAll`'s query. -/
def findAllQuery : String :=
  "SELECT nickname FROM client\n           WHERE userhost LIKE ? ESCAPE \x27\\\x27"

/-- The text of `Find`'s query. -/
def findQuery : String :=
  "SELECT nickname FROM client\n           WHERE userhost LIKE ? ESCAPE \\\n           LIMIT 1"

/-- `ClientLookupSet.FindAll`: an error of the query gives the empty set, and the result is a
`ClientSet`, so `set.Add` inserts once. -/
def findAll (clients : ClientLookupSet) (userhost : String) : List ClientId :=
  let userhost := expandUserHost userhost
  match Sqlite.query clients.db findAllQuery (quoteLike userhost) with
  | .ok nicknames => nicknames.foldl (fun set nickname =>
      match clients.get lowerRune nickname with
      | some client => set.insert client
      | none => set) []
  | .error _ => []

/-- `ClientLookupSet.Find`: the first row of a `LIMIT 1` query, looked up again in the map;
`nil` when no row can be read (the error is logged). -/
def find (clients : ClientLookupSet) (userhost : String) : Option ClientId :=
  let userhost := expandUserHost userhost
  match Sqlite.queryRow clients.db findQuery (quoteLike userhost) with
  | .ok nickname => clients.get lowerRune nickname
  | .error _ => none

theorem prepare_findAllQuery :
    Sqlite.prepare findAllQuery = .ok ⟨.nickname, .userhost, "\\", none⟩ := rfl

/-- What SQLite answers to `FindAll`'s query with a pattern within the limit: the nicknames of
the rows whose user-host is `LIKE` the pattern with the escape `\`, both read up to their first
NUL, in the table's order. -/
theorem query_findAllQuery (db : ClientDB) {pattern : String}
    (short : pattern.utf8ByteSize ≤ likePatternLength) :
    Sqlite.query db findAllQuery pattern =
      .ok ((db.rows.filter fun row =>
        likeMatch (cString pattern.data) (cString row.userhost.data)).map (·.nickname)) := by
  rw [Sqlite.query, prepare_findAllQuery]
  refine Sqlite.LikeSelect.run_none _ _ (fun row => ?_) _
  rw [likeFunc, if_neg (Nat.not_lt.mpr short), ← likeMatchWith_backslash]
  rfl

/-- With a pattern over SQLite's limit the query fails on its first row, and `FindAll` finds
nobody. -/
theorem findAll_of_long (clients : ClientLookupSet) {mask : String}
    (long : likePatternLength < (quoteLike (expandUserHost mask)).utf8ByteSize) :
    clients.findAll lowerRune mask = [] := by
  have refused : ∀ rows : List ClientRow,
      Sqlite.LikeSelect.run ⟨.nickname, .userhost, "\\", none⟩ (quoteLike (expandUserHost mask))
        none rows = if rows = [] then .ok [] else .error "LIKE or GLOB pattern too complex"
    | [] => rfl
    | _ :: _ => by simp only [Sqlite.LikeSelect.run, likeFunc, if_pos long]; rfl
  have answer : Sqlite.query clients.db findAllQuery (quoteLike (expandUserHost mask)) =
      if clients.db.rows = [] then .ok [] else .error "LIKE or GLOB pattern too complex" := by
    rw [Sqlite.query, prepare_findAllQuery]
    exact refused clients.db.rows
  dsimp only [findAll]
  rw [answer]
  split_ifs <;> rfl

/-- `Find`'s query stops at the bare backslash after `ESCAPE`. -/
theorem prepare_findQuery :
    Sqlite.prepare findQuery = .error "unrecognized token: \x22\\\x22" := rfl

variable {lowerRune}

/-- `Find` returns `nil` for every set and every mask. -/
theorem find_eq_none (clients : ClientLookupSet) (mask : String) :
    clients.find lowerRune mask = none := by
  unfold find Sqlite.queryRow Sqlite.query
  rw [prepare_findQuery]
  rfl

theorem mem_foldl_insert (found : String → Option ClientId) (names : List String)
    (set : List ClientId) (client : ClientId) :
    client ∈ names.foldl (fun set name =>
        match found name with
        | some client => set.insert client
        | none => set) set ↔
      client ∈ set ∨ ∃ name ∈ names, found name = some client := by
  induction names generalizing set with
  | nil => simp
  | cons name rest ih =>
    rw [List.foldl_cons, ih]
    cases result : found name with
    | none => simp [result]
    | some other =>
      simp only [List.mem_insert_iff, List.mem_cons, exists_eq_or_imp, result, Option.some.injEq,
        eq_comm (a := client), or_assoc, or_left_comm]

/-- Under the invariant, `FindAll(mask)` holds exactly the indexed clients whose user-host,
read up to its first NUL, matches `ExpandUserHost(mask)`, read up to its first NUL, as a glob,
when SQLite takes the pattern, and nobody otherwise. -/
theorem Invariant.mem_findAll {heap : ClientId → Client} {clients : ClientLookupSet}
    (inv : Invariant lowerRune heap clients) (mask : String) (client : ClientId) :
    client ∈ clients.findAll lowerRune mask ↔
      (quoteLike (expandUserHost mask)).utf8ByteSize ≤ likePatternLength ∧
        (∃ key, clients.byNick.get key = some client) ∧
          globMatch (cString (expandUserHost mask).data) (cString (heap client).userHost.data) := by
  by_cases short : (quoteLike (expandUserHost mask)).utf8ByteSize ≤ likePatternLength
  swap
  · rw [findAll_of_long lowerRune clients (Nat.not_le.mp short)]
    simp only [List.not_mem_nil, short, false_and]
  simp only [findAll, query_findAllQuery _ short, cString_quoteLike, likeMatch_quote,
    mem_foldl_insert, List.not_mem_nil, false_or, List.mem_map, List.mem_filter, short, true_and]
  constructor
  · rintro ⟨_, ⟨row, ⟨member, matched⟩, rfl⟩, found⟩
    obtain ⟨other, found', rfl⟩ := inv.row_nickname member
    obtain rfl := Option.some.inj (found.symm.trans found')
    exact ⟨⟨_, found'⟩, matched⟩
  · rintro ⟨⟨key, found⟩, matched⟩
    refine ⟨_, ⟨(heap client).row, ⟨(inv.mirrored _).mpr ⟨key, client, found, rfl⟩, matched⟩, rfl⟩,
      ?_⟩
    rw [Client.row, Client.Nick_of_hasNick (inv.keyed key client found).1]
    exact inv.get_nick found

/-- Over every reachable set, `FindAll(mask)` returns exactly the indexed clients whose
user-host matches `ExpandUserHost(mask)` as a glob: anchored at both ends, `*` any run, `?` one
character, every other character itself up to ASCII case. SQLite reads the mask and each
user-host up to its first NUL, and finds nobody when the quoted mask is over its pattern limit. -/
theorem findAll_matches {heap : ClientId → Client} {clients : ClientLookupSet}
    (reachable : Reachable lowerRune heap clients) (mask : String) (client : ClientId) :
    client ∈ clients.findAll lowerRune mask ↔
      (quoteLike (expandUserHost mask)).utf8ByteSize ≤ likePatternLength ∧
        (∃ key, clients.byNick.get key = some client) ∧
          globMatch (cString (expandUserHost mask).data) (cString (heap client).userHost.data) :=
  reachable.invariant.mem_findAll mask client

/-- The set holding `alice`, whose user-host is `alice!alice@example.net`. -/
def aliceSet : ClientLookupSet := (newClientLookupSet.add Char.toLower aliceHeap ⟨0⟩).2

theorem findAll_matches_alice :
    Reachable Char.toLower aliceHeap aliceSet ∧
      (⟨0⟩ ∈ aliceSet.findAll Char.toLower "al*" ↔
        (quoteLike (expandUserHost "al*")).utf8ByteSize ≤ likePatternLength ∧
          (∃ key, aliceSet.byNick.get key = some ⟨0⟩) ∧
            globMatch (cString (expandUserHost "al*").data) (cString (aliceHeap ⟨0⟩).userHost.data)) :=
  ⟨.add ⟨0⟩ (.new aliceHeap), findAll_matches (.add ⟨0⟩ (.new aliceHeap)) "al*" ⟨0⟩⟩

/-- SQLite stops reading the pattern of `FindAll("*\x00")`, `%\x00!%@%`, at its NUL and reads
`%`: `alice` is found, though `alice!alice@example.net` does not match the glob `*\x00!*@*`. -/
theorem findAll_nul :
    Reachable Char.toLower aliceHeap aliceSet ∧ aliceSet.findAll Char.toLower "*\x00" = [⟨0⟩] ∧
      globMatch (expandUserHost "*\x00").data (aliceHeap ⟨0⟩).userHost.data = false :=
  ⟨.add ⟨0⟩ (.new aliceHeap), by decide, by decide⟩

/-- Over a reachable set holding `alice`, `FindAll("al*")` returns that client and `Find("al*")`
returns `nil`. -/
theorem find_misses_findAll :
    Reachable Char.toLower aliceHeap aliceSet ∧
      aliceSet.findAll Char.toLower "al*" = [⟨0⟩] ∧ aliceSet.find Char.toLower "al*" = none :=
  ⟨.add ⟨0⟩ (.new aliceHeap), by decide, find_eq_none _ _⟩

end ClientLookupSet

end Ergo.Irc
