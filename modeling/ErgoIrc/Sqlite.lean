import ErgoIrc.ClientDB
import ErgoIrc.Like

/-! SQLite's side of the two `client` queries of `ClientLookupSet`: how `sqlite3_prepare`
reads a statement text, and how the statement it reads runs over the `client` rows.

The text is cut into tokens by `sqlite3GetToken`, which reads the class of a token's first
character and returns the token's length; lookahead past the end reads the C string's `NUL`.
A character that starts no token (`\`, `]`, `^`, `{`, `}`, DEL and most controls), an
unterminated quote, a lone `!` and a variable without a name are tokens of their own,
`TK_ILLEGAL`, and the parser stops at the first of them with `unrecognized token`.

Of SQLite's grammar only the form of the two queries is read,
`SELECT <column> FROM <table> WHERE <column> LIKE ? ESCAPE <string> [LIMIT <integer>]`,
with keywords up to ASCII case; names are not checked against SQLite's keyword list, and
any other statement is outside the model and refused as a syntax error. -/
namespace Ergo.Irc

namespace Sqlite

/-! ## Tokens -/

/-- The token types of `sqlite3GetToken` that the model tells apart: keywords and
identifiers are both `id`, operators and punctuation are all `operator`. -/
inductive TokenKind where
  | space
  | id
  | string
  | variable
  | integer
  | float
  | blob
  | operator
  | illegal
  deriving DecidableEq, Repr

structure Token where
  kind : TokenKind
  text : List Char
  deriving DecidableEq, Repr

/-- `z[i]` of the C code: the `NUL` that ends the C string past the end of the text. -/
def charAt (z : List Char) (i : Nat) : Char := z.getD i '\x00'

def isSpace (c : Char) : Bool :=
  c = ' ' || c = '\t' || c = '\n' || c = '\x0b' || c = '\x0c' || c = '\r'

def isXDigit (c : Char) : Bool := c.isDigit || ('a' ≤ c && c ≤ 'f') || ('A' ≤ c && c ≤ 'F')

/-- `IdChar`: ASCII letters and digits, `_`, `$`, and every character past ASCII. -/
def idChar (c : Char) : Bool := c.isAlphanum || c = '_' || c = '$' || 0x80 ≤ c.toNat

/-- The C loop `for(; p(z[i]); i++)` from `i`: the index of the first character that fails
`p`, or the end of the text. -/
def scan (p : Char → Bool) (z : List Char) (i : Nat) : Nat := i + ((z.drop i).takeWhile p).length

/-- The loop of a quoted token, from the character after its opening `delim`: the offset of
the closing `delim` (a doubled `delim` stands for one), or of the end of the text. -/
def closeQuote (delim : Char) : List Char → Nat
  | [] => 0
  | c :: rest =>
    if c = '\x00' then 0
    else if c = delim then
      match rest with
      | d :: rest => if d = delim then closeQuote delim rest + 2 else 0
      | [] => 0
    else closeQuote delim rest + 1

/-- The loop of a `$`, `@`, `:` or `#` variable, from its second character, with `n` the
identifier characters read so far: the characters it spans, and whether it is well formed
(it has a name, and a Tcl-style `(...)` suffix is closed). -/
def variableTail (n : Nat) : List Char → Nat × Bool
  | ':' :: ':' :: rest =>
    let (length, formed) := variableTail n rest
    (length + 2, formed)
  | c :: rest =>
    if idChar c then
      let (length, formed) := variableTail (n + 1) rest
      (length + 1, formed)
    else if c = '(' ∧ n ≠ 0 then
      let close := scan (fun c => c ≠ '\x00' && !isSpace c && c ≠ ')') rest 0
      if charAt rest close = ')' then (close + 2, true) else (close + 1, false)
    else (0, n ≠ 0)
  | [] => (0, n ≠ 0)

/-- The end of a numeric literal at `i`: identifier characters after it make the whole
literal illegal. -/
def numberEnd (z : List Char) (kind : TokenKind) (i : Nat) : TokenKind × Nat :=
  let j := scan idChar z i
  (if j = i then kind else .illegal, j)

/-- A numeric literal from `i`, after its digits and any fraction: an optional exponent. -/
def exponentFrom (z : List Char) (kind : TokenKind) (i : Nat) : TokenKind × Nat :=
  let e := charAt z i
  let sign := charAt z (i + 1)
  if (e = 'e' ∨ e = 'E') ∧
      (sign.isDigit ∨ (sign = '+' ∨ sign = '-') ∧ (charAt z (i + 2)).isDigit) then
    numberEnd z .float (scan Char.isDigit z (i + 2))
  else numberEnd z kind i

def numberFrom (z : List Char) (i : Nat) : TokenKind × Nat :=
  if charAt z i = '.' then exponentFrom z .float (scan Char.isDigit z (i + 1))
  else exponentFrom z .integer i

def blob (z : List Char) : TokenKind × Nat :=
  let i := scan isXDigit z 2
  if charAt z i ≠ '\x27' ∨ i % 2 = 1 then
    let j := scan (fun c => c ≠ '\x27' && c ≠ '\x00') z i
    (.illegal, if charAt z j = '\x00' then j else j + 1)
  else (.blob, i + 1)

/-- The loop of a `/* */` comment from its fourth character, with `prev` the character before:
the characters up to and with the first `*/`, or to the end of the text. -/
def closeComment (prev : Char) : List Char → Nat
  | [] => 0
  | c :: rest => if prev = '*' ∧ c = '/' then 1 else closeComment c rest + 1

/-- The classes of `aiClass`, the table `sqlite3GetToken` switches on. `letter` joins
`CC_KYWD0`, `CC_KYWD` and `CC_X`; `single` the one-character operators; `varAlpha` the
classes of `$`, `@`, `:` and `#`. `CC_NUL` is not among them: the `NUL` that ends the C
string ends the text here (see `tokenize`), so `sqlite3GetToken` never reads it. -/
inductive CharClass where
  | letter
  | digit
  | dot
  | space
  | minus
  | slash
  | eq
  | lt
  | gt
  | bang
  | pipe
  | single
  | quote
  | bracket
  | varNum
  | varAlpha
  | bom
  | id
  | illegal
  deriving DecidableEq, Repr

def charClass (c : Char) : CharClass :=
  if c.isAlpha then .letter
  else if c.isDigit then .digit
  else if c = ' ' ∨ c = '\t' ∨ c = '\n' ∨ c = '\x0c' ∨ c = '\r' then .space
  else if c = '.' then .dot
  else if c = '-' then .minus
  else if c = '/' then .slash
  else if c = '=' then .eq
  else if c = '<' then .lt
  else if c = '>' then .gt
  else if c = '!' then .bang
  else if c = '|' then .pipe
  else if c = '(' ∨ c = ')' ∨ c = ';' ∨ c = '+' ∨ c = '*' ∨ c = '%' ∨ c = ',' ∨ c = '&' ∨
      c = '~' then .single
  else if c = '\x27' ∨ c = '\x22' ∨ c = '\x60' then .quote
  else if c = '[' then .bracket
  else if c = '?' then .varNum
  else if c = '$' ∨ c = '@' ∨ c = ':' ∨ c = '#' then .varAlpha
  else if c = '\uFEFF' then .bom
  else if c = '_' ∨ 0x80 ≤ c.toNat then .id
  else .illegal

/-- The `switch` of `sqlite3GetToken`: the type and the length of the token at the start of
`z`, whose first character `c` has the class given and is followed by `next`. -/
def tokenOfClass : CharClass → Char → Char → List Char → TokenKind × Nat
  | .letter, c, next, z =>
    if (c = 'x' ∨ c = 'X') ∧ next = '\x27' then blob z else (.id, scan idChar z 1)
  | .digit, c, next, z =>
    if c = '0' ∧ (next = 'x' ∨ next = 'X') ∧ isXDigit (charAt z 2) then
      (.integer, scan isXDigit z 3)
    else numberFrom z (scan Char.isDigit z 1)
  | .dot, _, next, z =>
    if next.isDigit then exponentFrom z .float (scan Char.isDigit z 1) else (.operator, 1)
  | .space, _, _, z => (.space, scan isSpace z 1)
  | .minus, _, next, z =>
    if next = '-' then (.space, scan (fun c => c ≠ '\x00' && c ≠ '\n') z 2)
    else if next = '>' then (.operator, if charAt z 2 = '>' then 3 else 2)
    else (.operator, 1)
  | .slash, _, next, z =>
    if next ≠ '*' ∨ charAt z 2 = '\x00' then (.operator, 1)
    else (.space, closeComment (charAt z 2) (z.drop 3) + 3)
  | .eq, _, next, _ => (.operator, if next = '=' then 2 else 1)
  | .lt, _, next, _ => (.operator, if next = '=' ∨ next = '>' ∨ next = '<' then 2 else 1)
  | .gt, _, next, _ => (.operator, if next = '=' ∨ next = '>' then 2 else 1)
  | .bang, _, next, _ => if next = '=' then (.operator, 2) else (.illegal, 1)
  | .pipe, _, next, _ => (.operator, if next = '|' then 2 else 1)
  | .single, _, _, _ => (.operator, 1)
  | .quote, c, _, z =>
    let i := closeQuote c (z.drop 1) + 1
    if charAt z i = '\x27' then (.string, i + 1)
    else if charAt z i ≠ '\x00' then (.id, i + 1)
    else (.illegal, i)
  | .bracket, _, _, z =>
    let close := scan (fun c => c ≠ ']' && c ≠ '\x00') z 1
    if charAt z close = ']' then (.id, close + 1) else (.illegal, close)
  | .varNum, _, _, z => (.variable, scan Char.isDigit z 1)
  | .varAlpha, _, _, z =>
    let tail := variableTail 0 (z.drop 1)
    (if tail.2 then .variable else .illegal, tail.1 + 1)
  | .bom, _, _, _ => (.space, 1)
  | .id, _, _, z => (.id, scan idChar z 1)
  | .illegal, _, _, _ => (.illegal, 1)

def getToken (z : List Char) : TokenKind × Nat :=
  tokenOfClass (charClass (charAt z 0)) (charAt z 0) (charAt z 1) z

/-- The loop of `sqlite3RunParser` over the tokens, for at most `fuel` of them. -/
def tokensOf : Nat → List Char → List Token
  | 0, _ => []
  | _, [] => []
  | fuel + 1, z =>
    let token := getToken z
    ⟨token.1, z.take token.2⟩ :: tokensOf fuel (z.drop token.2)

/-- The tokens of a statement text, which as a C string ends at its first `NUL`; a token
spans at least one character, so a round per character reads them all. -/
def tokenize (sql : String) : List Token :=
  let z := cString sql.data
  tokensOf z.length z

/-! ## The `SELECT ... LIKE` statements -/

inductive ClientColumn where
  | nickname
  | userhost
  deriving DecidableEq, Repr

def ClientColumn.get : ClientColumn → ClientRow → String
  | .nickname, row => row.nickname
  | .userhost, row => row.userhost

/-- `sqlite3StrICmp` against a name in lower case: equality up to ASCII case. -/
def sameName (name word : String) : Bool := name.data.map Char.toLower = word.data

def ClientColumn.named (name : String) : Except String ClientColumn :=
  if sameName name "nickname" then .ok .nickname
  else if sameName name "userhost" then .ok .userhost
  else .error ("no such column: " ++ name)

/-- A prepared `SELECT column FROM client WHERE subject LIKE ? ESCAPE escape [LIMIT limit]`. -/
structure LikeSelect where
  column : ClientColumn
  subject : ClientColumn
  escape : String
  limit : Option Nat
  deriving DecidableEq, Repr

/-- One step of the parser: the next token, if it is one `accept` takes. An illegal token stops
it with `unrecognized token`, another token with a syntax error near it, and the end of the
text with `incomplete input`. -/
def expect {α : Type} (accept : Token → Option α) : List Token → Except String (α × List Token)
  | [] => .error "incomplete input"
  | token :: rest =>
    if token.kind = .illegal then
      .error ("unrecognized token: \x22" ++ String.mk token.text ++ "\x22")
    else match accept token with
      | some a => .ok (a, rest)
      | none => .error ("near \x22" ++ String.mk token.text ++ "\x22: syntax error")

/-- `sqlite3Dequote` of the text after an opening quote: up to the closing `close`, a doubled
`close` read as one. -/
def unquote (close : Char) : List Char → List Char
  | [] => []
  | c :: rest =>
    if c = close then
      match rest with
      | d :: rest => if d = close then close :: unquote close rest else []
      | [] => []
    else c :: unquote close rest

def keyword (word : String) (token : Token) : Option Unit :=
  if token.kind = .id ∧ token.text.map Char.toUpper = word.data then some () else none

def name (token : Token) : Option String :=
  if token.kind ≠ .id then none
  else match token.text with
    | '[' :: rest => some (String.mk (unquote ']' rest))
    | c :: rest =>
      if c = '\x22' ∨ c = '\x60' then some (String.mk (unquote c rest))
      else some (String.mk token.text)
    | [] => none

def stringLiteral (token : Token) : Option String :=
  if token.kind = .string then some (String.mk (unquote '\x27' (token.text.drop 1))) else none

def parameter (token : Token) : Option Unit :=
  if token.kind = .variable ∧ token.text = ['?'] then some () else none

def integer (token : Token) : Option Nat :=
  if token.kind = .integer ∧ token.text.all Char.isDigit then
    some (token.text.foldl (fun n c => 10 * n + (c.toNat - 48)) 0)
  else none

def finish : List Token → Except String Unit
  | [] => .ok ()
  | tokens => (expect (fun _ => (none : Option Unit)) tokens).map fun _ => ()

/-- `sqlite3_prepare` of a statement of the form above, its names resolved against the
`client` table: the table first, then the selected column, then the `LIKE` subject. -/
def prepare (sql : String) : Except String LikeSelect := do
  let tokens := (tokenize sql).filter (·.kind ≠ .space)
  let ((), tokens) ← expect (keyword "SELECT") tokens
  let (column, tokens) ← expect name tokens
  let ((), tokens) ← expect (keyword "FROM") tokens
  let (table, tokens) ← expect name tokens
  let ((), tokens) ← expect (keyword "WHERE") tokens
  let (subject, tokens) ← expect name tokens
  let ((), tokens) ← expect (keyword "LIKE") tokens
  let ((), tokens) ← expect parameter tokens
  let ((), tokens) ← expect (keyword "ESCAPE") tokens
  let (escape, tokens) ← expect stringLiteral tokens
  let (limit, tokens) ← match tokens with
    | [] => pure (none, [])
    | tokens => do
      let ((), tokens) ← expect (keyword "LIMIT") tokens
      let (limit, tokens) ← expect integer tokens
      pure (some limit, tokens)
  finish tokens
  if !sameName table "client" then throw ("no such table: " ++ table)
  let column ← ClientColumn.named column
  let subject ← ClientColumn.named subject
  pure ⟨column, subject, escape, limit⟩

/-- A run of the prepared statement over the rows in the table's order, with `limit` rows
still to give: `likeFunc` decides each row's `WHERE`, a row it accepts gives its selected
column, its error ends the run, and no row is read once the limit is reached. -/
def LikeSelect.run (select : LikeSelect) (pattern : String) (limit : Option Nat) :
    List ClientRow → Except String (List String)
  | [] => .ok []
  | row :: rows =>
    if limit = some 0 then .ok []
    else do
      if ← likeFunc pattern (select.subject.get row) select.escape then
        return select.column.get row :: (← select.run pattern (limit.map (· - 1)) rows)
      else select.run pattern limit rows

/-- Without a limit, where `likeFunc` answers every row, a run gives the selected column of
the rows it accepts. -/
theorem LikeSelect.run_none (select : LikeSelect) (pattern : String) {accepts : ClientRow → Bool}
    (answers : ∀ row, likeFunc pattern (select.subject.get row) select.escape = .ok (accepts row)) :
    (rows : List ClientRow) →
      select.run pattern none rows = .ok ((rows.filter accepts).map select.column.get)
  | [] => rfl
  | row :: rows => by
    have rest := LikeSelect.run_none select pattern answers rows
    cases accepted : accepts row <;>
      simp [run, answers, accepted, rest, List.filter_cons] <;> rfl

/-- `db.Query(sql, arg)` over the `client` table. -/
def query (db : ClientDB) (sql arg : String) : Except String (List String) := do
  let select ← prepare sql
  select.run arg select.limit db.rows

/-- `db.QueryRow(sql, arg).Scan(&value)`: the first row, or the query's error, or
`sql.ErrNoRows` when it has no row. -/
def queryRow (db : ClientDB) (sql arg : String) : Except String String := do
  match ← query db sql arg with
  | [] => throw "sql: no rows in result set"
  | value :: _ => pure value

end Sqlite

end Ergo.Irc
