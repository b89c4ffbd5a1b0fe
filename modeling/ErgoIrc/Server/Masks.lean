import ErgoIrc.Server.Queries

/-! What the masks of `FindAll`, and so of `WHO` and `WHOIS`, select. A user-host is
`nick!user@host`, and with no `!` in the user and host names its one `!` ends the nickname.
A mask with neither `!` nor `@` becomes `mask!*@*` and is a nickname glob. A mask `user@host`
has no `!`, so `ExpandUserHost` appends `!*` after the host, and `user@host!*` needs a `!`
after an `@` of the user-host: such a mask finds nobody. Both readings take masks and
user-hosts without NUL, so that SQLite reads all of them. -/
namespace Ergo.Irc

/-! ## Globs over a concatenation -/

theorem anySuffix_iff (k : List Char → Bool) (subject : List Char) :
    anySuffix k subject = true ↔
      ∃ skipped rest, subject = skipped ++ rest ∧ k rest = true := by
  induction subject with
  | nil =>
    refine ⟨fun here => ⟨[], [], rfl, here⟩, fun ⟨skipped, rest, split, here⟩ => ?_⟩
    obtain ⟨rfl, rfl⟩ := List.append_eq_nil.mp split.symm
    exact here
  | cons c subject ih =>
    simp only [anySuffix, Bool.or_eq_true, ih]
    constructor
    · rintro (here | ⟨skipped, rest, rfl, accepted⟩)
      · exact ⟨[], _, rfl, here⟩
      · exact ⟨c :: skipped, rest, rfl, accepted⟩
    · rintro ⟨_ | ⟨d, skipped⟩, rest, split, accepted⟩
      · exact .inl (split ▸ accepted)
      · obtain ⟨rfl, rfl⟩ := List.cons.inj split
        exact .inr ⟨skipped, rest, rfl, accepted⟩

/-- A subject matched by a glob followed by more is a part matched by the glob followed by
a part matched by the rest. -/
theorem globMatch_append {glob more : List Char} {subject : List Char}
    (matched : globMatch (glob ++ more) subject = true) :
    ∃ front back, subject = front ++ back ∧ globMatch glob front = true ∧
      globMatch more back = true := by
  induction glob generalizing subject with
  | nil => exact ⟨[], subject, rfl, rfl, matched⟩
  | cons c glob ih =>
    rw [List.cons_append, globMatch] at matched
    split_ifs at matched with star quest
    · obtain ⟨skipped, rest, rfl, accepted⟩ := (anySuffix_iff _ _).mp matched
      obtain ⟨front, back, rfl, first, second⟩ := ih accepted
      refine ⟨skipped ++ front, back, (List.append_assoc ..).symm, ?_, second⟩
      rw [globMatch, if_pos star]
      exact (anySuffix_iff _ _).mpr ⟨skipped, front, rfl, first⟩
    all_goals
      obtain _ | ⟨d, subject⟩ := subject
      · cases matched
    · obtain ⟨front, back, rfl, first, second⟩ := ih matched
      exact ⟨d :: front, back, rfl, by rwa [globMatch, if_neg star, if_pos quest], second⟩
    · obtain ⟨same, rest⟩ := Bool.and_eq_true _ _ ▸ matched
      obtain ⟨front, back, rfl, first, second⟩ := ih rest
      refine ⟨d :: front, back, rfl, ?_, second⟩
      rw [globMatch, if_neg star, if_neg quest, literal, same, first]
      rfl

/-- The converse: a part matched by the glob, then a part matched by the rest. -/
theorem globMatch_append_of {glob more front back : List Char}
    (first : globMatch glob front = true) (second : globMatch more back = true) :
    globMatch (glob ++ more) (front ++ back) = true := by
  induction glob generalizing front with
  | nil =>
    obtain rfl := List.isEmpty_iff.mp first
    exact second
  | cons c glob ih =>
    rw [globMatch] at first
    rw [List.cons_append, globMatch]
    split_ifs at first ⊢ with star quest
    · obtain ⟨skipped, rest, rfl, accepted⟩ := (anySuffix_iff _ _).mp first
      exact (anySuffix_iff _ _).mpr ⟨skipped, rest ++ back, List.append_assoc .., ih accepted⟩
    all_goals
      obtain _ | ⟨d, front⟩ := front
      · cases first
    · exact ih first
    · obtain ⟨same, rest⟩ := Bool.and_eq_true _ _ ▸ first
      simp only [List.cons_append, literal, same, ih rest, Bool.and_self]

theorem toNat_ofNat_of_valid {n : Nat} (valid : n.isValidChar) : (Char.ofNat n).toNat = n := by
  rw [Char.ofNat, dif_pos valid]
  rfl

/-- Only a character that is no lower-case letter lowercases to itself alone. -/
theorem eq_of_toLower_eq {d c : Char} (lower : d.toLower = c)
    (notLetter : c.toNat < 97 ∨ 122 < c.toNat) : d = c := by
  simp only [Char.toLower] at lower
  split_ifs at lower with upper
  · subst lower
    rw [toNat_ofNat_of_valid (Or.inl (by omega))] at notLetter
    omega
  · exact lower

/-- A subject a glob starting with a plain `!` or `@` matches starts with that character. -/
theorem globMatch_sign {c : Char} (sign : c = '!' ∨ c = '@') {glob subject : List Char}
    (matched : globMatch (c :: glob) subject = true) : ∃ rest, subject = c :: rest := by
  have plain : c ≠ '*' ∧ c ≠ '?' := by rcases sign with rfl | rfl <;> decide
  rw [globMatch, if_neg plain.1, if_neg plain.2] at matched
  obtain _ | ⟨d, rest⟩ := subject
  · cases matched
  · have lower : d.toLower = c.toLower :=
      (of_decide_eq_true (Bool.and_eq_true _ _ ▸ matched).1).symm
    have self : c.toLower = c := by rcases sign with rfl | rfl <;> decide
    exact ⟨rest, by
      rw [eq_of_toLower_eq (lower.trans self) (by rcases sign with rfl | rfl <;> decide)]⟩

/-- In `nick ++ '!' :: rest` with no `!` in `nick` or `rest`, the part before a `!` is `nick`. -/
theorem front_eq_of_bang {front back nick rest : List Char}
    (split : front ++ '!' :: back = nick ++ '!' :: rest) (nick_plain : '!' ∉ nick)
    (rest_plain : '!' ∉ rest) : front = nick := by
  rcases List.append_eq_append_iff.mp split with
    ⟨_ | ⟨e, more⟩, rfl, _⟩ | ⟨_ | ⟨e, more⟩, rfl, tail⟩
  · exact (List.append_nil _).symm
  · obtain ⟨rfl, -⟩ := List.cons.inj ‹_›
    exact absurd (List.mem_append_right _ (List.mem_cons_self _ _)) nick_plain
  · exact List.append_nil _
  · obtain ⟨rfl, rfl⟩ := List.cons.inj tail
    exact absurd (List.mem_append_right _ (List.mem_cons_self _ _)) rest_plain

/-! ## Masks over the index -/

/-- No `!` or `@` in the nickname, as `IsNickname` allows neither, no `!` in the user and
host names, and no NUL in the user-host: the user-host `nick!user@host` has one `!`, right
after the nickname, and SQLite reads all of it. -/
def Client.PlainNames (c : Client) : Prop :=
  '!' ∉ c.nick.data ∧ '@' ∉ c.nick.data ∧ '!' ∉ c.username.data ∧
    '!' ∉ c.hostname.data ∧ '\x00' ∉ c.userHost.data

instance (c : Client) : Decidable c.PlainNames :=
  inferInstanceAs (Decidable (_ ∧ _ ∧ _ ∧ _ ∧ _))

theorem Client.userHost_data {c : Client} (named : c.hasNick) :
    c.userHost.data = c.nick.data ++ '!' :: (c.username.data ++ '@' :: c.hostname.data) := by
  simp [userHost, Nick_of_hasNick named]

/-- A mask with neither `!`, `@` nor NUL is completed to `mask!*@*`, all of which SQLite
reads. -/
theorem expandUserHost_nickGlob {mask : String}
    (nickGlob : '!' ∉ mask.data ∧ '@' ∉ mask.data ∧ '\x00' ∉ mask.data) :
    cString (expandUserHost mask).data = mask.data ++ ['!', '*', '@', '*'] := by
  rw [cString_of_not_mem] <;> simp [expandUserHost, nickGlob.1, nickGlob.2.1, nickGlob.2.2]

/-- A mask with an `@` but neither `!` nor NUL is completed to `mask!*`, all of which SQLite
reads. -/
theorem expandUserHost_userHost {mask : String}
    (userHost : '@' ∈ mask.data ∧ '!' ∉ mask.data ∧ '\x00' ∉ mask.data) :
    cString (expandUserHost mask).data = mask.data ++ ['!', '*'] := by
  rw [cString_of_not_mem] <;> simp [expandUserHost, userHost.1, userHost.2.1, userHost.2.2]

namespace Client

variable {c : Client} (named : c.hasNick) (plain : c.PlainNames)
include named plain

/-- The user-host of a client with plain names matches `glob!*@*` iff its nickname matches
`glob`. -/
theorem globMatch_nickGlob (glob : List Char) :
    globMatch (glob ++ ['!', '*', '@', '*']) c.userHost.data = globMatch glob c.nick.data := by
  have rest_plain : '!' ∉ c.username.data ++ '@' :: c.hostname.data := by
    simp [plain.2.2.1, plain.2.2.2]
  rw [userHost_data named, Bool.eq_iff_iff]
  constructor
  · intro matched
    obtain ⟨front, back, split, first, second⟩ := globMatch_append matched
    obtain ⟨rest, rfl⟩ := globMatch_sign (.inl rfl) second
    rwa [← front_eq_of_bang split.symm plain.1 rest_plain]
  · intro matched
    refine globMatch_append_of matched ?_
    have tail : globMatch ['@', '*'] ('@' :: c.hostname.data) = true := by
      simp [globMatch, literal, anySuffix_iff]
    simpa [globMatch, literal, anySuffix_iff] using ⟨_, _, rfl, tail⟩

/-- The user-host of a client with plain names matches no `glob!*` where `glob` has an `@`. -/
theorem globMatch_userHost {glob : List Char} (at_sign : '@' ∈ glob) :
    globMatch (glob ++ ['!', '*']) c.userHost.data = false := by
  have rest_plain : '!' ∉ c.username.data ++ '@' :: c.hostname.data := by
    simp [plain.2.2.1, plain.2.2.2]
  rw [Bool.eq_false_iff]
  intro matched
  rw [userHost_data named] at matched
  obtain ⟨front, back, split, first, second⟩ := globMatch_append matched
  obtain ⟨rest, rfl⟩ := globMatch_sign (.inl rfl) second
  obtain ⟨before, after, rfl⟩ := List.append_of_mem at_sign
  obtain ⟨skipped, sign, rfl, -, signed⟩ := globMatch_append first
  obtain ⟨tail, rfl⟩ := globMatch_sign (.inr rfl) signed
  have named_front := front_eq_of_bang split.symm plain.1 rest_plain
  exact plain.2.1 (named_front ▸ List.mem_append_right _ (List.mem_cons_self _ _))

end Client

namespace Server

variable {lowerRune : Char → Char} {methods : ChannelMethods}

theorem Reachable.indexed_plain {s : Server} (reachable : s.Reachable lowerRune methods)
    (plain : ∀ entry ∈ s.clients.byNick.entries, (s.heap entry.2).PlainNames) {key : String}
    {c : ClientId} (found : s.clients.byNick.get key = some c) :
    (s.heap c).hasNick ∧ (s.heap c).PlainNames :=
  ⟨(reachable.lookup.keyed key c found).1, plain (key, c) ((GoMap.get_eq_some_iff ..).mp found)⟩

/-- In every state the loop reaches where no indexed client has a `!` in its names, an `@` in
its nickname or a NUL in its user-host, a mask with neither `!`, `@` nor NUL is a nickname
glob: `FindAll`, which `WHO` and `WHOIS` answer from, finds exactly the indexed clients whose
nickname it matches, when SQLite takes the pattern, and nobody otherwise. -/
theorem Reachable.findAll_nickGlob {s : Server} (reachable : s.Reachable lowerRune methods)
    (plain : ∀ entry ∈ s.clients.byNick.entries, (s.heap entry.2).PlainNames) {mask : String}
    (nickGlob : '!' ∉ mask.data ∧ '@' ∉ mask.data ∧ '\x00' ∉ mask.data) (c : ClientId) :
    c ∈ s.clients.findAll lowerRune mask ↔
      (quoteLike (expandUserHost mask)).utf8ByteSize ≤ likePatternLength ∧
        (∃ key, s.clients.byNick.get key = some c) ∧
          globMatch mask.data (s.heap c).nick.data := by
  rw [reachable.lookup.mem_findAll, expandUserHost_nickGlob nickGlob]
  refine and_congr_right fun _ => and_congr_right fun ⟨key, found⟩ => ?_
  obtain ⟨named, names⟩ := reachable.indexed_plain plain found
  rw [cString_of_not_mem names.2.2.2.2, Client.globMatch_nickGlob named names]

theorem aliceAndBob_findAll_al :
    (∀ entry ∈ aliceAndBob.clients.byNick.entries, (aliceAndBob.heap entry.2).PlainNames) ∧
      ('!' ∉ "AL*".data ∧ '@' ∉ "AL*".data ∧ '\x00' ∉ "AL*".data) ∧
      ((⟨0⟩ : ClientId) ∈ aliceAndBob.clients.findAll Char.toLower "AL*" ↔
        (quoteLike (expandUserHost "AL*")).utf8ByteSize ≤ likePatternLength ∧
          (∃ key, aliceAndBob.clients.byNick.get key = some ⟨0⟩) ∧
            globMatch "AL*".data (aliceAndBob.heap ⟨0⟩).nick.data) :=
  have plain : ∀ entry ∈ aliceAndBob.clients.byNick.entries,
      (aliceAndBob.heap entry.2).PlainNames := by decide
  have nickGlob : '!' ∉ "AL*".data ∧ '@' ∉ "AL*".data ∧ '\x00' ∉ "AL*".data := by decide
  ⟨plain, nickGlob, Reachable.findAll_nickGlob aliceAndBob_reachable plain nickGlob ⟨0⟩⟩

end Server

/-- `WHOIS user@host`, in every state the loop reaches where no indexed client has a `!` in
its names, an `@` in its nickname or a NUL in its user-host: `ExpandUserHost` makes the mask
`user@host!*`, which matches no user-host, so the only reply is `ERR_NOSUCHNICK`. -/
theorem WhoisCommand.handleServer_misses_userHost {lowerRune : Char → Char}
    {methods : ChannelMethods} {s : Server} (reachable : s.Reachable lowerRune methods)
    (plain : ∀ entry ∈ s.clients.byNick.entries, (s.heap entry.2).PlainNames)
    (client : ClientId) {mask : String}
    (userHost : '@' ∈ mask.data ∧ '!' ∉ mask.data ∧ '\x00' ∉ mask.data) :
    WhoisCommand.handleServer lowerRune s client [mask] = s.reply client (.errNoSuchNick mask) := by
  have nobody : s.clients.findAll lowerRune mask = [] := by
    refine List.eq_nil_iff_forall_not_mem.mpr fun c found => ?_
    obtain ⟨-, ⟨key, indexed⟩, matched⟩ := (reachable.lookup.mem_findAll mask c).mp found
    obtain ⟨named, names⟩ := reachable.indexed_plain plain indexed
    rw [expandUserHost_userHost userHost, cString_of_not_mem names.2.2.2.2,
      Client.globMatch_userHost named names userHost.1] at matched
    cases matched
  rw [WhoisCommand.handleServer_eq, List.flatMap_singleton, if_pos nobody]
  rfl

/-- `alice` connected from `example.net`, yet `WHOIS *@example.net` finds nobody. -/
theorem Server.aliceAndBob_whois_host :
    (∀ entry ∈ Server.aliceAndBob.clients.byNick.entries,
        (Server.aliceAndBob.heap entry.2).PlainNames) ∧
      ('@' ∈ "*@example.net".data ∧ '!' ∉ "*@example.net".data ∧
        '\x00' ∉ "*@example.net".data) ∧
      (Server.aliceAndBob.heap ⟨0⟩).hostname = "example.net" ∧
      WhoisCommand.handleServer Char.toLower Server.aliceAndBob ⟨1⟩ ["*@example.net"] =
        Server.aliceAndBob.reply ⟨1⟩ (.errNoSuchNick "*@example.net") :=
  have plain : ∀ entry ∈ Server.aliceAndBob.clients.byNick.entries,
      (Server.aliceAndBob.heap entry.2).PlainNames := by decide
  have userHost : '@' ∈ "*@example.net".data ∧ '!' ∉ "*@example.net".data ∧
      '\x00' ∉ "*@example.net".data := by decide
  ⟨plain, userHost, by decide,
    WhoisCommand.handleServer_misses_userHost Server.aliceAndBob_reachable plain ⟨1⟩ userHost⟩

end Ergo.Irc
