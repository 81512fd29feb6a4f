import PassiveFtp.Control.Frame

/-!
# Framing cuts the stream after every line feed

The framer works read by read, keeps at most one byte more than a line may
have, and skips what it does not keep. None of that shows: what comes out is
what cutting the joined bytes after every line feed gives, with each piece
judged by its length alone (`frames_eq_pieces`).

The argument has two layers. `takeLine` on joined bytes is `takeLine` on the
first read, and then on the rest with what is left of the limit, so a line that
is read in several reads is the line the joined bytes begin with. And a kept
line and a skipped one use up the same bytes, those of exactly one piece, so
after either the framer stands where the next piece begins.

A read of nothing is the end of the stream for the line it interrupts, and for
the whole stream when it interrupts none (`frames_eq_pieces_of_pause`).
-/

namespace PassiveFtp.Framing

/-- A stream cut after every line feed. What follows the last one is a piece
too, unless nothing follows it. -/
def pieces : List UInt8 → List (List UInt8)
  | [] => []
  | b :: rest =>
    if b = lineFeed then [b] :: pieces rest
    else
      match pieces rest with
      | [] => [[b]]
      | piece :: more => (b :: piece) :: more

/-- What becomes of a piece: it is a line if it is short enough, and too long
whatever it holds otherwise. A short piece that the stream fails in is lost. -/
def ofPiece (fails : Bool) (limit : Nat) (piece : List UInt8) : Option Frame :=
  if limit < piece.length then some (.overlong (piece.take (limit + 1)))
  else if fails && !isEnded piece then none
  else some (.line piece)

/-- Whether bytes stop in the middle of a line. -/
def isUnfinished (bytes : List UInt8) : Bool :=
  !bytes.isEmpty && !isEnded bytes

/-! ## Pieces -/

theorem pieces_of_not_mem {body : List UInt8} (hbody : lineFeed ∉ body) (hne : body ≠ []) :
    pieces body = [body] := by
  induction body with
  | nil => exact absurd rfl hne
  | cons b rest ih =>
      obtain ⟨hb, hrest⟩ := not_or.mp (mt List.mem_cons.mpr hbody)
      rw [pieces, if_neg (Ne.symm hb)]
      cases rest with
      | nil => rfl
      | cons c more => rw [ih hrest (List.cons_ne_nil c more)]

theorem pieces_append_lineFeed {body : List UInt8} (hbody : lineFeed ∉ body) (rest : List UInt8) :
    pieces (body ++ lineFeed :: rest) = (body ++ [lineFeed]) :: pieces rest := by
  induction body with
  | nil => rw [List.nil_append, pieces, if_pos rfl, List.nil_append]
  | cons b more ih =>
      obtain ⟨hb, hmore⟩ := not_or.mp (mt List.mem_cons.mpr hbody)
      rw [List.cons_append, pieces, if_neg (Ne.symm hb), ih hmore]
      rfl

/-- Bytes are none, or a last line without an end, or a line and what comes
after it. -/
theorem line_induction {P : List UInt8 → Prop} (nil : P [])
    (unfinished : ∀ body, lineFeed ∉ body → body ≠ [] → P body)
    (line : ∀ body rest, lineFeed ∉ body → P rest → P (body ++ lineFeed :: rest))
    (bytes : List UInt8) : P bytes := by
  by_cases hmem : lineFeed ∈ bytes
  · -- The first line feed is meant, so there is none before it.
    obtain ⟨body, rest, hbytes, hbody⟩ := List.eq_append_cons_of_mem hmem
    have hless : rest.length < bytes.length := by
      rw [hbytes, List.length_append, List.length_cons]
      omega
    rw [hbytes]
    exact line body rest hbody (line_induction nil unfinished line rest)
  · by_cases hne : bytes = []
    · rw [hne]
      exact nil
    · exact unfinished bytes hmem hne
termination_by bytes.length

/-- Cutting loses nothing. -/
theorem flatten_pieces (bytes : List UInt8) : (pieces bytes).flatten = bytes := by
  induction bytes using line_induction with
  | nil => rfl
  | unfinished body hbody hne => rw [pieces_of_not_mem hbody hne, List.flatten_singleton]
  | line body rest hbody ih =>
      rw [pieces_append_lineFeed hbody, List.flatten_cons, ih, List.append_assoc,
        List.singleton_append]

/-! ## Ended and unfinished

Both show after the last line feed, so neither depends on anything before it. -/

theorem isEnded_append_lineFeed (body : List UInt8) : isEnded (body ++ [lineFeed]) = true := by
  simp [isEnded]

theorem isEnded_of_not_mem {bytes : List UInt8} (h : lineFeed ∉ bytes) : isEnded bytes = false := by
  simp only [isEnded, beq_eq_false_iff_ne]
  exact fun hlast => h (List.mem_of_getLast? hlast)

theorem isEnded_cons {b : UInt8} (hb : b ≠ lineFeed) (bytes : List UInt8) :
    isEnded (b :: bytes) = isEnded bytes := by
  cases bytes with
  | nil => simpa [isEnded] using hb
  | cons c more => simp [isEnded]

theorem isEnded_append {bytes : List UInt8} (h : isEnded bytes = false) (more : List UInt8) :
    isEnded (bytes ++ more) = isEnded more := by
  cases more with
  | nil =>
      rw [List.append_nil, h]
      rfl
  | cons b rest => simp [isEnded, List.getLast?_append, List.getLast?_cons]

theorem isUnfinished_of_not_mem {bytes : List UInt8} (h : lineFeed ∉ bytes) (hne : bytes ≠ []) :
    isUnfinished bytes = true := by
  simp [isUnfinished, isEnded_of_not_mem h, hne]

theorem isUnfinished_append (body rest : List UInt8) :
    isUnfinished (body ++ lineFeed :: rest) = isUnfinished rest := by
  cases rest with
  | nil => simp [isUnfinished, isEnded]
  | cons b more => simp [isUnfinished, isEnded, List.getLast?_append, List.getLast?_cons]

theorem pieces_append {bytes : List UInt8} (h : isUnfinished bytes = false) (more : List UInt8) :
    pieces (bytes ++ more) = pieces bytes ++ pieces more := by
  induction bytes using line_induction with
  | nil => rfl
  | unfinished body hbody hne =>
      rw [isUnfinished_of_not_mem hbody hne] at h
      cases h
  | line body rest hbody ih =>
      rw [isUnfinished_append] at h
      rw [List.append_assoc, List.cons_append, pieces_append_lineFeed hbody, ih h,
        pieces_append_lineFeed hbody, List.cons_append]

/-! ## Taking a line off joined bytes

A line that fits is taken with its line feed, and of one that does not, as much
as fits. -/

theorem takeLine_of_not_mem (count : Nat) {body : List UInt8} (hbody : lineFeed ∉ body) :
    takeLine count body = (body.take count, body.drop count) := by
  induction body generalizing count with
  | nil => cases count <;> rfl
  | cons b rest ih =>
      obtain ⟨hb, hrest⟩ := not_or.mp (mt List.mem_cons.mpr hbody)
      cases count with
      | zero => rfl
      | succ count =>
          rw [takeLine, if_neg (Ne.symm hb), ih count hrest]
          rfl

theorem dropWhile_of_not_mem {body : List UInt8} (hbody : lineFeed ∉ body) :
    body.dropWhile (· != lineFeed) = [] := by
  induction body with
  | nil => rfl
  | cons b rest ih =>
      obtain ⟨hb, hrest⟩ := not_or.mp (mt List.mem_cons.mpr hbody)
      rw [List.dropWhile_cons_of_pos (by simpa using Ne.symm hb), ih hrest]

theorem takeLine_of_lt {count : Nat} {body : List UInt8} (hbody : lineFeed ∉ body)
    (hlt : body.length < count) (rest : List UInt8) :
    takeLine count (body ++ lineFeed :: rest) = (body ++ [lineFeed], rest) := by
  induction body generalizing count with
  | nil =>
      obtain ⟨more, rfl⟩ : ∃ more, count = more + 1 := ⟨count - 1, by simp at hlt; omega⟩
      rw [List.nil_append, takeLine, if_pos rfl, List.nil_append]
  | cons b more ih =>
      obtain ⟨hb, hmore⟩ := not_or.mp (mt List.mem_cons.mpr hbody)
      rw [List.length_cons] at hlt
      obtain ⟨less, rfl⟩ : ∃ less, count = less + 1 := ⟨count - 1, by omega⟩
      rw [List.cons_append, takeLine, if_neg (Ne.symm hb), ih hmore (by omega)]
      rfl

theorem takeLine_of_le {count : Nat} {body : List UInt8} (hbody : lineFeed ∉ body)
    (hle : count ≤ body.length) (rest : List UInt8) :
    takeLine count (body ++ rest) = (body.take count, body.drop count ++ rest) := by
  induction body generalizing count with
  | nil =>
      obtain rfl : count = 0 := by simpa using hle
      rfl
  | cons b more ih =>
      obtain ⟨hb, hmore⟩ := not_or.mp (mt List.mem_cons.mpr hbody)
      cases count with
      | zero => rfl
      | succ less =>
          rw [List.length_cons] at hle
          rw [List.cons_append, takeLine, if_neg (Ne.symm hb), ih hmore (by omega)]
          rfl

theorem length_takeLine_le (count : Nat) (bytes : List UInt8) :
    (takeLine count bytes).1.length ≤ count := by
  induction bytes generalizing count with
  | nil => cases count <;> simp [takeLine]
  | cons b rest ih =>
      cases count with
      | zero => simp [takeLine]
      | succ count =>
          simp only [takeLine]
          split
          · simp
          · have := ih count
            simp only [List.length_cons]
            omega

/-- A line that is complete, or as long as it may be, does not depend on what
comes after the bytes it was taken off. -/
theorem takeLine_append_of_stop {count : Nat} {read : List UInt8} (later : List UInt8)
    (hstop : isEnded (takeLine count read).1 = true ∨ (takeLine count read).1.length = count) :
    takeLine count (read ++ later) =
      ((takeLine count read).1, (takeLine count read).2 ++ later) := by
  induction read generalizing count with
  | nil =>
      cases count with
      | zero => rfl
      | succ count => simp [takeLine, isEnded] at hstop
  | cons b rest ih =>
      cases count with
      | zero => rfl
      | succ count =>
          simp only [List.cons_append, takeLine] at hstop ⊢
          split
          · rfl
          · next hb =>
              rw [if_neg hb] at hstop
              simp only [isEnded_cons hb, List.length_cons, Nat.add_right_cancel_iff] at hstop
              rw [ih hstop]

/-- A line that is neither goes on in what comes after. -/
theorem takeLine_append_of_go {count : Nat} {read : List UInt8} (later : List UInt8)
    (hopen : isEnded (takeLine count read).1 = false)
    (hshort : (takeLine count read).1.length ≠ count) :
    takeLine count read = (read, []) ∧
      takeLine count (read ++ later) =
        (read ++ (takeLine (count - read.length) later).1,
          (takeLine (count - read.length) later).2) := by
  induction read generalizing count with
  | nil =>
      cases count with
      | zero => simp [takeLine] at hshort
      | succ count => exact ⟨rfl, rfl⟩
  | cons b rest ih =>
      cases count with
      | zero => simp [takeLine] at hshort
      | succ count =>
          simp only [List.cons_append, takeLine] at hopen hshort ⊢
          split
          · next hb =>
              rw [if_pos hb, hb] at hopen
              simp [isEnded] at hopen
          · next hb =>
              rw [if_neg hb] at hopen hshort
              simp only [isEnded_cons hb, List.length_cons, ne_eq,
                Nat.add_right_cancel_iff] at hopen hshort
              obtain ⟨hread, hlater⟩ := ih hopen hshort
              rw [hread, hlater, List.length_cons, Nat.add_sub_add_right]
              exact ⟨rfl, rfl⟩

/-! ## Reading and skipping over several reads

A stream is looked at as a run of reads with something in them, and then a
tail: the end, or a read of nothing with whatever follows it. Reading and
skipping stop where the joined bytes of the run say they do, and otherwise run
into the tail. -/

theorem putBack_append (rest : List UInt8) (run tail : List (List UInt8)) :
    putBack rest (run ++ tail) = putBack rest run ++ tail := by
  simp only [putBack]
  split <;> rfl

theorem flatten_putBack (rest : List UInt8) (run : List (List UInt8)) :
    (putBack rest run).flatten = rest ++ run.flatten := by
  simp only [putBack]
  split
  · next h => rw [h, List.nil_append]
  · rfl

theorem nil_not_mem_putBack {run : List (List UInt8)} (hrun : [] ∉ run) (rest : List UInt8) :
    [] ∉ putBack rest run := by
  simp only [putBack]
  split
  · exact hrun
  · next h => simp [Ne.symm h, hrun]

variable {fails : Bool} {limit : Nat} {run tail : List (List UInt8)}

theorem readLine_cons {read : List UInt8} (hread : read ≠ []) (more : List (List UInt8)) :
    readLine fails limit (read :: more) =
      if isEnded (takeLine limit read).1 || (takeLine limit read).1.length == limit then
        (some (takeLine limit read).1, putBack (takeLine limit read).2 more)
      else
        ((readLine fails (limit - (takeLine limit read).1.length) more).1.map
            ((takeLine limit read).1 ++ ·),
          (readLine fails (limit - (takeLine limit read).1.length) more).2) := by
  cases read with
  | nil => exact absurd rfl hread
  | cons b rest => rfl

theorem readLine_of_stop (fails : Bool) (tail : List (List UInt8)) (hlimit : 0 < limit)
    (hrun : [] ∉ run)
    (hstop : isEnded (takeLine limit run.flatten).1 = true ∨
      (takeLine limit run.flatten).1.length = limit) :
    ∃ left, [] ∉ left ∧ left.flatten = (takeLine limit run.flatten).2 ∧
      readLine fails limit (run ++ tail) =
        (some (takeLine limit run.flatten).1, left ++ tail) := by
  induction run generalizing limit with
  | nil =>
      cases limit with
      | zero => exact absurd hlimit (Nat.lt_irrefl 0)
      | succ limit => simp [takeLine, isEnded] at hstop
  | cons read more ih =>
      obtain ⟨hread, hmore⟩ := not_or.mp (mt List.mem_cons.mpr hrun)
      rw [List.flatten_cons] at hstop ⊢
      rw [List.cons_append, readLine_cons (Ne.symm hread)]
      by_cases hfirst : isEnded (takeLine limit read).1 = true ∨
          (takeLine limit read).1.length = limit
      · rw [takeLine_append_of_stop _ hfirst, if_pos (by simpa using hfirst), putBack_append]
        exact ⟨putBack (takeLine limit read).2 more, nil_not_mem_putBack hmore _,
          flatten_putBack _ _, rfl⟩
      · obtain ⟨hopen, hshort⟩ := not_or.mp hfirst
        rw [Bool.not_eq_true] at hopen
        have hle := length_takeLine_le limit read
        obtain ⟨hwhole, hgo⟩ := takeLine_append_of_go more.flatten hopen hshort
        simp only [hwhole] at hopen hshort hle ⊢
        simp only [hgo, isEnded_append hopen, List.length_append] at hstop ⊢
        obtain ⟨left, hleft, hflatten, hnext⟩ :=
          @ih (limit - read.length) (by omega) hmore
            (hstop.imp_right fun hlength => by omega)
        refine ⟨left, hleft, hflatten, ?_⟩
        rw [if_neg (by simp [hopen, hshort]), hnext]
        rfl

theorem readLine_of_go (fails : Bool) (tail : List (List UInt8)) (hrun : [] ∉ run)
    (hopen : isEnded (takeLine limit run.flatten).1 = false)
    (hshort : (takeLine limit run.flatten).1.length ≠ limit) :
    readLine fails limit (run ++ tail) =
      ((readLine fails (limit - run.flatten.length) tail).1.map (run.flatten ++ ·),
        (readLine fails (limit - run.flatten.length) tail).2) := by
  induction run generalizing limit with
  | nil => simp
  | cons read more ih =>
      obtain ⟨hread, hmore⟩ := not_or.mp (mt List.mem_cons.mpr hrun)
      rw [List.flatten_cons] at hopen hshort ⊢
      rw [List.cons_append, readLine_cons (Ne.symm hread)]
      by_cases hfirst : isEnded (takeLine limit read).1 = true ∨
          (takeLine limit read).1.length = limit
      · rw [takeLine_append_of_stop _ hfirst] at hopen hshort
        rcases hfirst with hended | hlength
        · rw [hended] at hopen
          cases hopen
        · exact absurd hlength hshort
      · obtain ⟨hopen', hshort'⟩ := not_or.mp hfirst
        rw [Bool.not_eq_true] at hopen'
        have hle := length_takeLine_le limit read
        obtain ⟨hwhole, hgo⟩ := takeLine_append_of_go more.flatten hopen' hshort'
        simp only [hwhole] at hopen' hshort' hle ⊢
        simp only [hgo, isEnded_append hopen', List.length_append] at hopen hshort ⊢
        rw [if_neg (by simp [hopen', hshort']), ih hmore hopen (by omega), Nat.sub_add_eq]
        simp [Function.comp_def]

theorem skipLine_cons {read : List UInt8} (hread : read ≠ []) (more : List (List UInt8)) :
    skipLine fails (read :: more) =
      match read.dropWhile (· != lineFeed) with
      | [] => skipLine fails more
      | _ :: rest => some (putBack rest more) := by
  cases read with
  | nil => exact absurd rfl hread
  | cons b rest => rfl

theorem skipLine_of_stop (fails : Bool) (tail : List (List UInt8)) (hrun : [] ∉ run)
    {b : UInt8} {rest : List UInt8}
    (hdrop : run.flatten.dropWhile (· != lineFeed) = b :: rest) :
    ∃ left, [] ∉ left ∧ left.flatten = rest ∧
      skipLine fails (run ++ tail) = some (left ++ tail) := by
  induction run with
  | nil => cases hdrop
  | cons read more ih =>
      obtain ⟨hread, hmore⟩ := not_or.mp (mt List.mem_cons.mpr hrun)
      rw [List.flatten_cons, List.dropWhile_append] at hdrop
      rw [List.cons_append, skipLine_cons (Ne.symm hread)]
      cases hfirst : read.dropWhile (· != lineFeed) with
      | nil =>
          rw [hfirst] at hdrop
          exact ih hmore hdrop
      | cons c after =>
          rw [hfirst] at hdrop
          cases hdrop
          simp only [putBack_append]
          exact ⟨putBack after more, nil_not_mem_putBack hmore _, flatten_putBack _ _, rfl⟩

theorem skipLine_of_go (hrun : [] ∉ run) (hdrop : run.flatten.dropWhile (· != lineFeed) = []) :
    skipLine fails (run ++ tail) = skipLine fails tail := by
  induction run with
  | nil => rfl
  | cons read more ih =>
      obtain ⟨hread, hmore⟩ := not_or.mp (mt List.mem_cons.mpr hrun)
      rw [List.flatten_cons, List.dropWhile_append] at hdrop
      rw [List.cons_append, skipLine_cons (Ne.symm hread)]
      cases hfirst : read.dropWhile (· != lineFeed) with
      | nil =>
          rw [hfirst] at hdrop
          exact ih hmore hdrop
      | cons c after =>
          rw [hfirst] at hdrop
          cases hdrop

/-! ## One piece at a time

A piece that ends with a line feed is used up within the run. One that does not
is all there is of the run, and the tail ends it. -/

theorem cut_of_none {reads left : List (List UInt8)}
    (h : readLine fails (limit + 1) reads = (none, left)) : cut fails limit reads = [] := by
  rw [cut]
  split
  · rfl
  · rfl
  · next hread => rw [h] at hread; cases hread

theorem cut_of_nil {reads left : List (List UInt8)}
    (h : readLine fails (limit + 1) reads = (some [], left)) : cut fails limit reads = [] := by
  rw [cut]
  split
  · rfl
  · rfl
  · next hread => rw [h] at hread; cases hread

theorem cut_of_some {reads left : List (List UInt8)} {kept : List UInt8}
    (h : readLine fails (limit + 1) reads = (some kept, left)) (hkept : kept ≠ []) :
    cut fails limit reads =
      if kept.length ≤ limit then .line kept :: cut fails limit left
      else if isEnded kept then .overlong kept :: cut fails limit left
      else
        match skipLine fails left with
        | some left => .overlong kept :: cut fails limit left
        | none => [.overlong kept] := by
  rw [cut]
  split
  · next hread => rw [h] at hread; cases hread
  · next hread =>
      rw [h] at hread
      cases hread
      exact absurd rfl hkept
  · next b rest left' hread =>
      rw [h] at hread
      cases hread
      split <;> next hskip => rw [hskip]

theorem cut_nil : cut fails limit [] = [] := by
  cases fails with
  | true => exact cut_of_none rfl
  | false => exact cut_of_nil rfl

/-- A piece that ends with a line feed comes to one frame and is used up, no
matter how much of it was kept. -/
theorem cut_of_lineFeed (tail : List (List UInt8)) (hrun : [] ∉ run) {body rest : List UInt8}
    (hbody : lineFeed ∉ body) (hbytes : run.flatten = body ++ lineFeed :: rest) (lost : Bool) :
    ∃ frame left, ofPiece lost limit (body ++ [lineFeed]) = some frame ∧ [] ∉ left ∧
      left.flatten = rest ∧
      cut fails limit (run ++ tail) = frame :: cut fails limit (left ++ tail) := by
  by_cases hfits : body.length < limit + 1
  · -- The line is read to its end, and only its length is left to judge.
    have htaken := takeLine_of_lt hbody hfits rest
    rw [← hbytes] at htaken
    obtain ⟨left, hleft, hflatten, hread⟩ := readLine_of_stop fails tail
      (Nat.succ_pos limit) hrun (.inl (by rw [htaken]; exact isEnded_append_lineFeed body))
    simp only [htaken] at hflatten hread
    rw [cut_of_some hread (by simp), isEnded_append_lineFeed, ofPiece, isEnded_append_lineFeed]
    by_cases hshort : (body ++ [lineFeed]).length ≤ limit
    · rw [if_pos hshort, if_neg (by omega)]
      exact ⟨.line (body ++ [lineFeed]), left, by simp, hleft, hflatten, rfl⟩
    · rw [if_neg hshort, if_pos (by omega), List.take_of_length_le (by simp; omega)]
      exact ⟨.overlong (body ++ [lineFeed]), left, rfl, hleft, hflatten, rfl⟩
  · -- What is read stops short of the line feed, and skipping makes up for it.
    have hlong : limit + 1 ≤ body.length := by omega
    have htaken := takeLine_of_le hbody hlong (lineFeed :: rest)
    rw [← hbytes] at htaken
    have hlength : (body.take (limit + 1)).length = limit + 1 := by
      rw [List.length_take]
      omega
    obtain ⟨left, hleft, hflatten, hread⟩ := readLine_of_stop fails tail
      (Nat.succ_pos limit) hrun (.inr (by rw [htaken]; exact hlength))
    simp only [htaken] at hflatten hread
    have hdrop : left.flatten.dropWhile (· != lineFeed) = lineFeed :: rest := by
      rw [hflatten, List.dropWhile_append_of_pos]
      · rfl
      · intro b hb
        simpa using fun h : b = lineFeed => hbody (h ▸ List.mem_of_mem_drop hb)
    obtain ⟨after, hafter, hrest, hskip⟩ :=
      skipLine_of_stop fails tail hleft hdrop
    have hkept : body.take (limit + 1) ≠ [] := by
      intro h
      rw [h] at hlength
      cases hlength
    have hopen : isEnded (body.take (limit + 1)) = false :=
      isEnded_of_not_mem fun h => hbody (List.mem_of_mem_take h)
    rw [cut_of_some hread hkept, if_neg (by omega), if_neg (by simp [hopen]), hskip, ofPiece,
      if_pos (by simp; omega), List.take_append_of_le_length hlong]
    exact ⟨_, after, rfl, hafter, hrest, rfl⟩

theorem cut_of_not_mem (hrun : [] ∉ run) (hopen : lineFeed ∉ run.flatten) (hne : run.flatten ≠ [])
    (htail : tail = [] ∨ ∃ more, tail = [] :: more) :
    cut fails limit (run ++ tail) =
      (ofPiece (fails && tail.isEmpty) limit run.flatten).toList ++ cut fails limit tail.tail := by
  have htaken := takeLine_of_not_mem (limit + 1) hopen
  by_cases hlong : limit < run.flatten.length
  · have hlength : (run.flatten.take (limit + 1)).length = limit + 1 := by
      rw [List.length_take]
      omega
    obtain ⟨left, hleft, hflatten, hread⟩ := readLine_of_stop fails tail
      (Nat.succ_pos limit) hrun (.inr (by rw [htaken]; exact hlength))
    simp only [htaken] at hflatten hread
    have hdrop : left.flatten.dropWhile (· != lineFeed) = [] := by
      have hskipped : lineFeed ∉ left.flatten := by
        rw [hflatten]
        exact fun h => hopen (List.mem_of_mem_drop h)
      exact dropWhile_of_not_mem hskipped
    have hkept : run.flatten.take (limit + 1) ≠ [] := by
      intro h
      rw [h] at hlength
      cases hlength
    have hended : isEnded (run.flatten.take (limit + 1)) = false :=
      isEnded_of_not_mem fun h => hopen (List.mem_of_mem_take h)
    rw [cut_of_some hread hkept, if_neg (by omega), if_neg (by simp [hended]),
      skipLine_of_go hleft hdrop, ofPiece, if_pos hlong]
    rcases htail with rfl | ⟨more, rfl⟩
    · cases fails with
      | true => simp [skipLine, cut_nil]
      | false => rfl
    · rfl
  · rw [List.take_of_length_le (by omega), List.drop_of_length_le (by omega)] at htaken
    have hread := readLine_of_go fails tail hrun
      (by rw [htaken]; exact isEnded_of_not_mem hopen)
      (by rw [htaken]; exact Nat.ne_of_lt (by simp only; omega))
    rw [ofPiece, if_neg hlong, isEnded_of_not_mem hopen]
    rcases htail with rfl | ⟨more, rfl⟩
    · cases fails with
      | true =>
          rw [cut_of_none hread]
          simp [cut_nil]
      | false =>
          simp only [readLine, Bool.false_eq_true, if_false, Option.map_some,
            List.append_nil] at hread
          rw [List.append_nil, cut_of_some hread hne, if_pos (by omega)]
          rfl
    · simp only [readLine, Option.map_some, List.append_nil] at hread
      rw [cut_of_some hread hne, if_pos (by omega)]
      simp

/-! ## Whole streams -/

/-- Framing a run of reads and its tail. Of the tail only that matters which
an unfinished line leaves of it. -/
theorem cut_eq_pieces (fails : Bool) (limit : Nat) (hrun : [] ∉ run)
    (htail : tail = [] ∨ ∃ more, tail = [] :: more) :
    cut fails limit (run ++ tail) =
      (pieces run.flatten).filterMap (ofPiece (fails && tail.isEmpty) limit) ++
        if isUnfinished run.flatten then cut fails limit tail.tail else [] := by
  generalize hbytes : run.flatten = bytes
  induction bytes using line_induction generalizing run with
  | nil =>
      have hnone : run = [] := by
        cases run with
        | nil => rfl
        | cons read more =>
            rw [List.flatten_cons, List.append_eq_nil_iff] at hbytes
            exact absurd hbytes.1 fun h => hrun (h ▸ List.mem_cons_self)
      rw [hnone, List.nil_append]
      rcases htail with rfl | ⟨more, rfl⟩
      · exact cut_nil
      · exact cut_of_nil rfl
  | unfinished body hbody hne =>
      rw [← hbytes] at hbody hne ⊢
      rw [cut_of_not_mem hrun hbody hne htail, pieces_of_not_mem hbody hne,
        isUnfinished_of_not_mem hbody hne, if_pos rfl]
      cases hpiece : ofPiece (fails && tail.isEmpty) limit run.flatten <;> simp [hpiece]
  | line body rest hbody ih =>
      obtain ⟨frame, left, hframe, hleft, hflatten, hcut⟩ :=
        cut_of_lineFeed tail hrun hbody hbytes (fails && tail.isEmpty)
      rw [hcut, ih hleft hflatten, pieces_append_lineFeed hbody, isUnfinished_append,
        List.filterMap_cons_some hframe]
      rfl

/-- Framing is cutting: a line for every piece, however the bytes were read. -/
theorem frames_eq_pieces {incoming : Incoming} (hreads : [] ∉ incoming.reads) :
    incoming.frames limit =
      (pieces incoming.reads.flatten).filterMap (ofPiece incoming.failure.isSome limit) := by
  have hcut := cut_eq_pieces incoming.failure.isSome limit hreads (.inl rfl)
  simpa [Incoming.frames, cut_nil] using hcut

/-- A read of nothing ends the line it interrupts, and framing goes on after
it. If it interrupts none, framing ends. -/
theorem frames_eq_pieces_of_pause (hrun : [] ∉ run) (rest : List (List UInt8))
    (failure : Option IoError) :
    Incoming.frames limit { reads := run ++ [] :: rest, failure } =
      (pieces run.flatten).filterMap (ofPiece false limit) ++
        if isUnfinished run.flatten then Incoming.frames limit { reads := rest, failure }
        else [] := by
  have hcut := cut_eq_pieces failure.isSome limit hrun
    (.inr ⟨rest, (rfl : [] :: rest = [] :: rest)⟩)
  simpa [Incoming.frames] using hcut

/-! ## What is kept -/

theorem length_readLine_le {reads left : List (List UInt8)} {kept : List UInt8}
    (h : readLine fails limit reads = (some kept, left)) : kept.length ≤ limit := by
  induction reads generalizing limit kept with
  | nil =>
      simp only [readLine] at h
      split at h
      · cases h
      · cases h
        exact Nat.zero_le limit
  | cons read more ih =>
      cases hread : read with
      | nil =>
          rw [hread] at h
          cases h
          exact Nat.zero_le limit
      | cons b rest =>
          rw [readLine_cons (by rw [hread]; exact List.cons_ne_nil b rest)] at h
          have hle := length_takeLine_le limit read
          split at h
          · cases h
            exact hle
          · cases hnext : readLine fails (limit - (takeLine limit read).1.length) more with
            | mk line? left' =>
                rw [hnext] at h
                cases line? with
                | none => cases h
                | some line =>
                    cases h
                    have hrest := ih hnext
                    rw [List.length_append]
                    omega

end PassiveFtp.Framing
