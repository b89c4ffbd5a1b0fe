import ErgoIrc.Reply

/-! `Server.MOTD`: the message of the day is read line by line with
`bufio.Reader.ReadString('\n')`, each line is stripped of trailing `\r` and `\n` and sent
in `RPL_MOTD` pieces of at most 80 bytes. The loop stops at the first error
`ReadString` returns, and so never sends the bytes after the file's last `'\n'`, which
`ReadString` hands back together with `io.EOF`. Lengths and slices are in bytes, as Go's
`len` and `line[0:80]` are. -/
namespace Ergo.Irc

/-- `'\n'`. -/
def lf : UInt8 := 10

/-- `'\r'`. -/
def cr : UInt8 := 13

/-- `ReadString(delim)` on the unread bytes: the bytes up to and including the first
`delim` with no error, or all of them with `io.EOF` when no `delim` is left; and what
remains unread. -/
def readString (delim : UInt8) : List UInt8 → List UInt8 × Bool × List UInt8
  | [] => ([], true, [])
  | byte :: rest =>
    if byte = delim then ([byte], false, rest)
    else
      let (line, eof, unread) := readString delim rest
      (byte :: line, eof, unread)

theorem readString_cases (delim : UInt8) (input : List UInt8) :
    (delim ∉ input ∧ readString delim input = (input, true, [])) ∨
    ∃ piece rest, delim ∉ piece ∧ input = piece ++ delim :: rest ∧
      readString delim input = (piece ++ [delim], false, rest) := by
  induction input with
  | nil => exact .inl ⟨List.not_mem_nil _, rfl⟩
  | cons byte rest ih =>
    by_cases found : byte = delim
    · subst found
      exact .inr ⟨[], rest, List.not_mem_nil _, rfl, by simp [readString]⟩
    · rcases ih with ⟨absent, read⟩ | ⟨piece, unread, absent, rfl, read⟩
      · exact .inl ⟨by simp [absent, Ne.symm found], by simp [readString, found, read]⟩
      · exact .inr ⟨byte :: piece, unread, by simp [absent, Ne.symm found], rfl,
          by simp [readString, found, read]⟩

theorem readString_rest_lt {delim : UInt8} {input line rest : List UInt8}
    (read : readString delim input = (line, false, rest)) : rest.length < input.length := by
  rcases readString_cases delim input with ⟨-, read'⟩ | ⟨piece, unread, -, rfl, read'⟩
  · rw [read] at read'
    cases read'
  · rw [read] at read'
    cases read'
    simp only [List.length_append, List.length_cons]
    omega

/-- `strings.TrimRight(s, cutset)` for an ASCII cutset: trailing bytes in the cutset go. -/
def trimRight (s cutset : List UInt8) : List UInt8 :=
  (s.reverse.dropWhile (· ∈ cutset)).reverse

/-- The inner `for len(line) > 80` loop: the 80-byte pieces it sends and what it leaves. -/
def splitLoop (line : List UInt8) : List (List UInt8) × List UInt8 :=
  if line.length > 80 then
    let (pieces, rest) := splitLoop (line.drop 80)
    (line.take 80 :: pieces, rest)
  else ([], line)
termination_by line.length
decreasing_by simp only [List.length_drop]; omega

/-- The payloads of the `RPL_MOTD` replies one trimmed line is sent as. -/
def motdLinePayloads (line : List UInt8) : List (List UInt8) :=
  if line.length > 80 then
    let (pieces, rest) := splitLoop line
    pieces ++ if rest.length > 0 then [rest] else []
  else [line]

/-- The read loop of `Server.MOTD`: the payloads it sends, in order. -/
def motdLoop (input : List UInt8) : List (List UInt8) :=
  match read : readString lf input with
  | (_, true, _) => []
  | (line, false, rest) => motdLinePayloads (trimRight line [cr, lf]) ++ motdLoop rest
termination_by input.length
decreasing_by exact readString_rest_lt read

/-- `Server.MOTD`: the replies sent to the client, given the server's `motdFile` and what
`os.Open` gives for it (`none` for an error, otherwise the file's bytes). -/
def motdReplies (motdFile : String) (file : Option (List UInt8)) : List Reply :=
  if motdFile = "" then [.errNoMOTD]
  else
    match file with
    | none => [.errNoMOTD]
    | some content =>
      .rplMOTDStart :: (motdLoop content).map .rplMOTD ++ [.rplMOTDEnd]

theorem trimRight_append_lf (line : List UInt8) :
    trimRight (line ++ [lf]) [cr, lf] = trimRight line [cr, lf] := by
  simp [trimRight, List.dropWhile_cons]

theorem motdLoop_of_eof {input line rest : List UInt8}
    (read : readString lf input = (line, true, rest)) : motdLoop input = [] := by
  rw [motdLoop]
  split <;> simp_all

theorem motdLoop_of_line {input line rest : List UInt8}
    (read : readString lf input = (line, false, rest)) :
    motdLoop input = motdLinePayloads (trimRight line [cr, lf]) ++ motdLoop rest := by
  rw [motdLoop]
  split <;> simp_all

/-- The read loop sends the `'\n'`-separated pieces of the file in order, each trimmed
and cut into payloads, except the last piece: the bytes after the last `'\n'`, empty when
the file ends with one. -/
theorem motdLoop_eq (input : List UInt8) :
    motdLoop input = (input.splitOn lf).dropLast.flatMap
      fun line => motdLinePayloads (trimRight line [cr, lf]) := by
  induction input using WellFounded.induction (measure List.length).wf with
  | h input ih =>
  rcases readString_cases lf input with ⟨absent, read⟩ | ⟨piece, rest, absent, rfl, read⟩
  · have single : input.splitOn lf = [input] :=
      List.splitOnP_eq_single _ _ fun byte member same => absent (beq_iff_eq.mp same ▸ member)
    rw [motdLoop_of_eof read, single]
    rfl
  · have first : (piece ++ lf :: rest).splitOn lf = piece :: rest.splitOn lf :=
      List.splitOnP_first (· == lf) piece
        (fun byte member same => absent (beq_iff_eq.mp same ▸ member)) lf (beq_self_eq_true lf) rest
    obtain ⟨line, lines, split⟩ := List.exists_cons_of_ne_nil (List.splitOnP_ne_nil (· == lf) rest)
    have shorter : rest.length < (piece ++ lf :: rest).length := by simp; omega
    rw [motdLoop_of_line read, trimRight_append_lf, ih rest shorter, first]
    rw [List.splitOn, split]
    rfl

theorem splitLoop_spec (line : List UInt8) :
    (splitLoop line).1.flatten ++ (splitLoop line).2 = line ∧
      (∀ piece ∈ (splitLoop line).1, piece.length = 80) ∧
      (splitLoop line).2.length ≤ 80 ∧ (80 < line.length → 0 < (splitLoop line).2.length) := by
  induction line using WellFounded.induction (measure List.length).wf with
  | h line ih =>
  rw [splitLoop]
  split_ifs with long
  · have shorter : (line.drop 80).length < line.length := by simp; omega
    obtain ⟨joined, sized, bounded, nonempty⟩ := ih (line.drop 80) shorter
    refine ⟨by simp [joined], ?_, bounded, fun _ => ?_⟩
    · simp only [List.mem_cons]
      rintro piece (rfl | member)
      · simp; omega
      · exact sized piece member
    · by_cases longer : 80 < (line.drop 80).length
      · exact nonempty longer
      · rw [splitLoop, if_neg longer]
        simp; omega
  · simp; omega

/-- How one trimmed line is sent: whole when it has at most 80 bytes, otherwise as
consecutive 80-byte pieces followed by the non-empty remainder of at most 80 bytes. -/
theorem motdLinePayloads_spec (line : List UInt8) :
    (line.length ≤ 80 → motdLinePayloads line = [line]) ∧
    (80 < line.length → ∃ pieces rest, motdLinePayloads line = pieces ++ [rest] ∧
      pieces.flatten ++ rest = line ∧ (∀ piece ∈ pieces, piece.length = 80) ∧
      0 < rest.length ∧ rest.length ≤ 80) := by
  refine ⟨fun short => by simp [motdLinePayloads, Nat.not_lt.mpr short], fun long => ?_⟩
  obtain ⟨joined, sized, bounded, nonempty⟩ := splitLoop_spec line
  refine ⟨(splitLoop line).1, (splitLoop line).2, ?_, joined, sized, nonempty long, bounded⟩
  simp [motdLinePayloads, long, nonempty long]

/-- What `Server.MOTD` sends for every file it can open. -/
theorem motd_some (motdFile : String) (named : motdFile ≠ "") (content : List UInt8) :
    motdReplies motdFile (some content) = .rplMOTDStart :: ((content.splitOn lf).dropLast.flatMap
      fun line => motdLinePayloads (trimRight line [cr, lf])).map .rplMOTD ++ [.rplMOTDEnd] := by
  rw [motdReplies, if_neg named, motdLoop_eq]

/-- The replies to a set `MOTD` file, with what they carry of each line the read loop
reaches: the line's `RPL_MOTD` payloads are at most 80 bytes each and, joined in order, give
back the line, so no byte of it is lost, added or moved. -/
theorem motd_lines_rejoin (motdFile : String) (named : motdFile ≠ "") (content : List UInt8) :
    motdReplies motdFile (some content) = .rplMOTDStart :: ((content.splitOn lf).dropLast.flatMap
      fun line => motdLinePayloads (trimRight line [cr, lf])).map .rplMOTD ++ [.rplMOTDEnd] ∧
    ∀ line, (motdLinePayloads line).flatten = line ∧
      ∀ payload ∈ motdLinePayloads line, payload.length ≤ 80 := by
  refine ⟨motd_some motdFile named content, fun line => ?_⟩
  obtain ⟨short, long⟩ := motdLinePayloads_spec line
  by_cases fits : line.length ≤ 80
  · rw [short fits]
    exact ⟨List.flatten_singleton line, fun payload member => List.mem_singleton.mp member ▸ fits⟩
  · obtain ⟨pieces, rest, split, joined, sized, -, bounded⟩ := long (Nat.lt_of_not_le fits)
    rw [split, List.flatten_append, List.flatten_singleton]
    refine ⟨joined, fun payload member => ?_⟩
    rcases List.mem_append.mp member with piece | last
    · exact (sized payload piece).le
    · exact List.mem_singleton.mp last ▸ bounded

theorem motd_lines_rejoin_hello :
    "ircd.motd" ≠ "" ∧
      (motdReplies "ircd.motd" (some [104, 105, 13, 10]) =
          .rplMOTDStart :: (([104, 105, 13, 10].splitOn lf).dropLast.flatMap
            fun line => motdLinePayloads (trimRight line [cr, lf])).map .rplMOTD ++ [.rplMOTDEnd] ∧
        ∀ line, (motdLinePayloads line).flatten = line ∧
          ∀ payload ∈ motdLinePayloads line, payload.length ≤ 80) :=
  ⟨by decide, motd_lines_rejoin "ircd.motd" (by decide) [104, 105, 13, 10]⟩

/-- A file whose last line has no `'\n'`: that line is never sent. -/
theorem motd_drops_unterminated_line :
    motdReplies "ircd.motd" (some [104, 101, 108, 108, 111]) = [.rplMOTDStart, .rplMOTDEnd] := by
  rw [motdReplies, if_neg (by decide), motdLoop_eq]
  rfl

end Ergo.Irc
