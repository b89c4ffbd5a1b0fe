import Mathlib.Data.List.Basic

/-! User-host masks and their translation to SQL. A mask such as `al*` is
completed by `expandUserHost` and turned by `quoteLike` into the pattern of a
`LIKE ? ESCAPE '\'` query over the client table. Two matchers give the meaning
on both sides: `likeMatch` is SQLite's LIKE with an escape character, and
`globMatch` is the mask language of the spec (`*` any run, `?` one character,
anything else itself). Both compare letters up to ASCII case, as SQLite's LIKE
does. SQLite's `likeFunc` refuses a pattern of more than 50000 bytes and reads pattern and
subject as C strings, so `likeMatch` sees only the text before each one's first NUL. -/
namespace Ergo.Irc

/-- `strings.Replace(s, old, new, -1)` for a one-character `old`, the only form
the server uses: every occurrence of `old` becomes `new`. -/
def replace (s : String) (old : Char) (new : String) : String :=
  ⟨s.data.flatMap fun c => if c = old then new.data else [c]⟩

def quoteLike (userhost : String) : String :=
  let like := userhost
  -- escape escape char
  let like := replace like '\\' "\\\\"
  -- escape meta-many
  let like := replace like '%' "\\%"
  -- escape meta-one
  let like := replace like '_' "\\_"
  -- swap meta-many
  let like := replace like '*' "%"
  -- swap meta-one
  replace like '?' "_"

/-- Fill in missing wildcards: a mask without `!` or `@` gets `!*` or `@*`. -/
def expandUserHost (userhost : String) : String :=
  let expanded := userhost
  let expanded := if '!' ∈ expanded.data then expanded else expanded ++ "!*"
  if '@' ∈ expanded.data then expanded else expanded ++ "@*"

/-! ## Matching -/

/-- Whether `k` accepts some suffix of `subject`, `subject` itself included: the
continuation after a run wildcard. -/
def anySuffix (k : List Char → Bool) : List Char → Bool
  | [] => k []
  | c :: rest => k (c :: rest) || anySuffix k rest

/-- One subject character, any character. -/
def anyOne (k : List Char → Bool) : List Char → Bool
  | [] => false
  | _ :: rest => k rest

/-- One subject character equal to `c` up to ASCII case. -/
def literal (c : Char) (k : List Char → Bool) : List Char → Bool
  | [] => false
  | d :: rest => c.toLower = d.toLower && k rest

/-- SQLite's `patternCompare` for `LIKE` with escape `\`, over the text it reads: `%`
matches any run, `_` one character, `\` makes the next character literal, and a `\` that
ends the pattern matches nothing. -/
def likeMatch : List Char → List Char → Bool
  | [], subject => subject.isEmpty
  | c :: pattern, subject =>
    if c = '%' then anySuffix (likeMatch pattern) subject
    else if c = '_' then anyOne (likeMatch pattern) subject
    else if c = '\\' then
      match pattern with
      | [] => false
      | e :: rest => literal e (likeMatch rest) subject
    else literal c (likeMatch pattern) subject

/-- `likeMatch` with any escape character, as SQLite runs `subject LIKE pattern ESCAPE e`.
The escape is tested first: an escape of `%` or `_` turns that wildcard off. -/
def likeMatchWith (escape : Char) : List Char → List Char → Bool
  | [], subject => subject.isEmpty
  | c :: pattern, subject =>
    if c = escape then
      match pattern with
      | [] => false
      | e :: rest => literal e (likeMatchWith escape rest) subject
    else if c = '%' then anySuffix (likeMatchWith escape pattern) subject
    else if c = '_' then anyOne (likeMatchWith escape pattern) subject
    else literal c (likeMatchWith escape pattern) subject

/-- The spec's user-host glob: `*` matches any run, `?` one character, and every
other character itself, anchored at both ends. -/
def globMatch : List Char → List Char → Bool
  | [], subject => subject.isEmpty
  | c :: glob, subject =>
    if c = '*' then anySuffix (globMatch glob) subject
    else if c = '?' then anyOne (globMatch glob) subject
    else literal c (globMatch glob) subject

/-! ## Token readings -/

inductive PatternToken where
  | anyRun
  | anyOne
  | literal (c : Char)
  deriving DecidableEq, Repr

/-- The text of a LIKE pattern that SQLite reads, read with escape `\`; `none` for a
dangling escape. -/
def likeTokens : List Char → Option (List PatternToken)
  | [] => some []
  | c :: pattern =>
    if c = '%' then (likeTokens pattern).map (.anyRun :: ·)
    else if c = '_' then (likeTokens pattern).map (.anyOne :: ·)
    else if c = '\\' then
      match pattern with
      | [] => none
      | e :: rest => (likeTokens rest).map (.literal e :: ·)
    else (likeTokens pattern).map (.literal c :: ·)

/-- One step of `likeMatch`, with the escape case left as a `match`. -/
theorem likeMatch_cons (c : Char) (pattern : List Char) :
    likeMatch (c :: pattern) =
      if c = '%' then anySuffix (likeMatch pattern)
      else if c = '_' then anyOne (likeMatch pattern)
      else if c = '\\' then
        match pattern with
        | [] => fun _ => false
        | e :: rest => literal e (likeMatch rest)
      else literal c (likeMatch pattern) := by
  funext subject
  cases pattern <;> simp only [likeMatch, ite_apply]

theorem likeMatchWith_cons (escape c : Char) (pattern : List Char) :
    likeMatchWith escape (c :: pattern) =
      if c = escape then
        match pattern with
        | [] => fun _ => false
        | e :: rest => literal e (likeMatchWith escape rest)
      else if c = '%' then anySuffix (likeMatchWith escape pattern)
      else if c = '_' then anyOne (likeMatchWith escape pattern)
      else literal c (likeMatchWith escape pattern) := by
  funext subject
  cases pattern <;> simp only [likeMatchWith, ite_apply]

theorem likeMatchWith_backslash : (pattern : List Char) →
    likeMatchWith '\\' pattern = likeMatch pattern
  | [] => rfl
  | c :: pattern => by
    rw [likeMatchWith_cons, likeMatch_cons]
    by_cases escape : c = '\\'
    · subst escape
      cases pattern with
      | nil => rfl
      | cons e rest => simp only [likeMatchWith_backslash rest]; rfl
    · simp only [escape, if_false, likeMatchWith_backslash pattern]

theorem likeTokens_cons (c : Char) (pattern : List Char) :
    likeTokens (c :: pattern) =
      if c = '%' then (likeTokens pattern).map (.anyRun :: ·)
      else if c = '_' then (likeTokens pattern).map (.anyOne :: ·)
      else if c = '\\' then
        match pattern with
        | [] => none
        | e :: rest => (likeTokens rest).map (.literal e :: ·)
      else (likeTokens pattern).map (.literal c :: ·) := by
  cases pattern <;> simp only [likeTokens]

def globTokens : List Char → List PatternToken
  | [] => []
  | c :: glob =>
    if c = '*' then .anyRun :: globTokens glob
    else if c = '?' then .anyOne :: globTokens glob
    else .literal c :: globTokens glob

/-! ## SQLite's `likeFunc` -/

/-- The text C code reads from a string: its characters before the first NUL. -/
def cString (s : List Char) : List Char := s.takeWhile (· ≠ '\x00')

/-- `SQLITE_MAX_LIKE_PATTERN_LENGTH`. -/
def likePatternLength : Nat := 50000

/-- SQLite's `likeFunc` for `subject LIKE pattern ESCAPE escape`. It counts the pattern's
bytes, NULs included, before anything else, then wants an escape of one character, and
`patternCompare` reads pattern and subject as C strings. -/
def likeFunc (pattern subject escape : String) : Except String Bool :=
  if likePatternLength < pattern.utf8ByteSize then .error "LIKE or GLOB pattern too complex"
  else match escape.data with
    | [escape] => .ok (likeMatchWith escape (cString pattern.data) (cString subject.data))
    | _ => .error "ESCAPE expression must be a single character"

theorem cString_of_not_mem {s : List Char} (plain : '\x00' ∉ s) : cString s = s :=
  List.takeWhile_eq_self_iff.mpr fun _ mem => decide_eq_true fun nul => plain (nul ▸ mem)

theorem cString_append_of_not_mem {s : List Char} (plain : '\x00' ∉ s) (rest : List Char) :
    cString (s ++ rest) = s ++ cString rest :=
  List.takeWhile_append_of_pos fun _ mem => decide_eq_true fun nul => plain (nul ▸ mem)

/-! ## `quoteLike` character by character -/

/-- What `quoteLike` makes of one character. -/
def quoteChar (c : Char) : List Char :=
  if c = '\\' then ['\\', '\\']
  else if c = '%' then ['\\', '%']
  else if c = '_' then ['\\', '_']
  else if c = '*' then ['%']
  else if c = '?' then ['_']
  else [c]

theorem quoteLike_data (g : String) : (quoteLike g).data = g.data.flatMap quoteChar := by
  simp only [quoteLike, replace, List.flatMap_assoc]
  congr 1
  funext c
  by_cases special : c = '\\' ∨ c = '%' ∨ c = '_' ∨ c = '*' ∨ c = '?'
  · rcases special with rfl | rfl | rfl | rfl | rfl <;> rfl
  · simp only [not_or] at special
    simp [quoteChar, special]

/-- `quoteChar` keeps a NUL and makes none of any other character, so SQLite reads of
`quoteLike g` the quoting of what it would read of `g`. -/
theorem cString_quoteLike (g : String) :
    cString (quoteLike g).data = (cString g.data).flatMap quoteChar := by
  rw [quoteLike_data]
  induction g.data with
  | nil => rfl
  | cons c g ih =>
    by_cases nul : c = '\x00'
    · subst nul
      rfl
    · have plain : '\x00' ∉ quoteChar c := by
        unfold quoteChar
        split_ifs <;> simp [Ne.symm nul]
      have kept : cString (c :: g) = c :: cString g :=
        List.takeWhile_cons_of_pos (decide_eq_true nul)
      rw [List.flatMap_cons, cString_append_of_not_mem plain, ih, kept, List.flatMap_cons]

/-- The LIKE reading of one quoted character is the glob reading of the
character itself. -/
theorem likeTokens_quoteChar (c : Char) (pattern : List Char) :
    likeTokens (quoteChar c ++ pattern) =
      (likeTokens pattern).map ((globTokens [c]) ++ ·) := by
  by_cases special : c = '\\' ∨ c = '%' ∨ c = '_' ∨ c = '*' ∨ c = '?'
  · rcases special with rfl | rfl | rfl | rfl | rfl <;> first | rfl | exact likeTokens_cons _ pattern
  · simp only [not_or] at special
    simp [quoteChar, likeTokens_cons, globTokens, special]

theorem likeMatch_quoteChar (c : Char) (pattern : List Char) :
    likeMatch (quoteChar c ++ pattern) =
      if c = '*' then anySuffix (likeMatch pattern)
      else if c = '?' then anyOne (likeMatch pattern)
      else literal c (likeMatch pattern) := by
  by_cases special : c = '\\' ∨ c = '%' ∨ c = '_' ∨ c = '*' ∨ c = '?'
  · rcases special with rfl | rfl | rfl | rfl | rfl <;> first | rfl | exact likeMatch_cons _ pattern
  · simp only [not_or] at special
    simp [quoteChar, likeMatch_cons, special]

theorem likeTokens_quote (g : List Char) :
    likeTokens (g.flatMap quoteChar) = some (globTokens g) := by
  induction g with
  | nil => rfl
  | cons c g ih =>
    rw [List.flatMap_cons, likeTokens_quoteChar, ih]
    simp only [Option.map_some', globTokens]
    split_ifs <;> rfl

theorem likeMatch_quote (g : List Char) : likeMatch (g.flatMap quoteChar) = globMatch g := by
  induction g with
  | nil => rfl
  | cons c g ih =>
    funext subject
    rw [List.flatMap_cons, likeMatch_quoteChar, ih]
    simp only [globMatch]
    split_ifs <;> rfl

/-- SQLite reads `quoteLike g` up to its first NUL. Read as a LIKE pattern with escape `\`,
that is the token sequence of the glob `g` up to its first NUL: no dangling escape at its end,
no escape on a wildcard made from `*` or `?`. So within the pattern limit a subject, read up
to its own first NUL, is `LIKE` the one iff it matches the other. -/
theorem quoteLike_exact (g : String) :
    likeTokens (cString (quoteLike g).data) = some (globTokens (cString g.data)) ∧
      ∀ subject : String, likeFunc (quoteLike g) subject "\\" =
        if likePatternLength < (quoteLike g).utf8ByteSize then
          .error "LIKE or GLOB pattern too complex"
        else .ok (globMatch (cString g.data) (cString subject.data)) := by
  rw [cString_quoteLike]
  refine ⟨likeTokens_quote _, fun subject => ?_⟩
  rw [likeFunc, cString_quoteLike]
  split_ifs
  · rfl
  · exact congrArg Except.ok (congrFun (likeMatchWith_backslash _ ▸ likeMatch_quote _) _)

/-- SQLite stops reading `quoteLike "*\x00"` at the NUL and reads `%`: `x` is `LIKE` it, yet
`x` does not match the glob `*\x00`. -/
theorem quoteLike_nul :
    likeFunc (quoteLike "*\x00") "x" "\\" = .ok true ∧ globMatch "*\x00".data "x".data = false :=
  ⟨rfl, rfl⟩

example : quoteLike "a\\*%_?" = "a\\\\%\\%\\__" := by decide

end Ergo.Irc
