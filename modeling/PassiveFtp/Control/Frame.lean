import PassiveFtp.IoError

/-!
# Framing: control lines out of a stream of reads

A line ends with a line feed, but nobody says it comes in one read, or that it
comes at all. At most one byte more than the limit is kept of a line; a line
that long is turned down, and the rest of it is skipped without being kept. The
end of the stream ends an unfinished line and a failed read drops it.

A read that yields nothing is taken for the end of the stream at that moment,
which is what it means on a socket. Every line uses up some of the bytes still
to come, and that is why framing ends.
-/

namespace PassiveFtp

/-- The byte that ends a line. -/
def lineFeed : UInt8 := 0x0A

/-- What the control connection will deliver: one byte string a read, and then
the end of the stream or a failure. -/
structure Incoming where
  reads : List (List UInt8)
  failure : Option IoError := none

/-- What framing finds: a line to be read as a request, or the beginning of one
that is too long. -/
inductive Frame where
  | line (bytes : List UInt8)
  | overlong (kept : List UInt8)
deriving DecidableEq, Repr

namespace Framing

/-- Bytes up to a count or to the first line feed, that included, and the bytes
after them. -/
def takeLine : Nat → List UInt8 → List UInt8 × List UInt8
  | 0, rest => ([], rest)
  | _ + 1, [] => ([], [])
  | count + 1, b :: rest =>
    if b = lineFeed then ([b], rest)
    else
      let taken := takeLine count rest
      (b :: taken.1, taken.2)

/-- What is left to read when `rest` has not been used of the current read. -/
def putBack (rest : List UInt8) (reads : List (List UInt8)) : List (List UInt8) :=
  if rest = [] then reads else rest :: reads

/-- Whether bytes end with a line feed. -/
def isEnded (bytes : List UInt8) : Bool :=
  bytes.getLast? == some lineFeed

/-- Reads a line of at most `limit` bytes, in as many reads as that takes, and
gives the reads that are left. If the stream fails at its end, there is no line
when the end is reached. -/
def readLine (fails : Bool) (limit : Nat) :
    List (List UInt8) → Option (List UInt8) × List (List UInt8)
  | [] => (if fails then none else some [], [])
  | [] :: more => (some [], more)
  | read :: more =>
    let taken := takeLine limit read
    if isEnded taken.1 || taken.1.length == limit then (some taken.1, putBack taken.2 more)
    else
      let next := readLine fails (limit - taken.1.length) more
      (next.1.map (taken.1 ++ ·), next.2)

/-- Skips reads up to and including the next line feed and gives those that are
left, none at all if the stream fails before. -/
def skipLine (fails : Bool) : List (List UInt8) → Option (List (List UInt8))
  | [] => if fails then none else some []
  | [] :: more => some more
  | read :: more =>
    match read.dropWhile (· != lineFeed) with
    | [] => skipLine fails more
    | _ :: rest => some (putBack rest more)

/-- The number of bytes still to come. -/
def volume (reads : List (List UInt8)) : Nat :=
  reads.flatten.length

theorem volume_cons (read : List UInt8) (reads : List (List UInt8)) :
    volume (read :: reads) = read.length + volume reads := by
  simp [volume]

theorem takeLine_append (count : Nat) (bytes : List UInt8) :
    (takeLine count bytes).1 ++ (takeLine count bytes).2 = bytes := by
  induction count generalizing bytes with
  | zero => rfl
  | succ count ih =>
      cases bytes with
      | nil => rfl
      | cons b rest =>
          simp only [takeLine]
          split
          · rfl
          · simp [ih rest]

theorem length_takeLine (count : Nat) (bytes : List UInt8) :
    (takeLine count bytes).1.length + (takeLine count bytes).2.length = bytes.length := by
  rw [← List.length_append, takeLine_append]

theorem volume_putBack (rest : List UInt8) (reads : List (List UInt8)) :
    volume (putBack rest reads) = rest.length + volume reads := by
  simp only [putBack]
  split
  · next h => simp [h]
  · exact volume_cons rest reads

/-- What a line takes is gone from what is still to come. -/
theorem volume_readLine {fails : Bool} {limit : Nat} {reads left : List (List UInt8)}
    {line : List UInt8} (h : readLine fails limit reads = (some line, left)) :
    line.length + volume left ≤ volume reads := by
  induction reads generalizing limit line with
  | nil =>
      simp only [readLine] at h
      split at h
      · cases h
      · cases h
        simp
  | cons read more ih =>
      cases read with
      | nil =>
          cases h
          simp [volume_cons]
      | cons b rest =>
          simp only [readLine] at h
          have htake := length_takeLine limit (b :: rest)
          split at h
          · cases h
            rw [volume_putBack, volume_cons]
            omega
          · cases hnext : readLine fails (limit - (takeLine limit (b :: rest)).1.length) more with
            | mk tail? left' =>
                rw [hnext] at h
                cases tail? with
                | none => cases h
                | some tail =>
                    cases h
                    have hle := ih hnext
                    rw [List.length_append, volume_cons]
                    omega

/-- Skipping does not add to what is still to come. -/
theorem volume_skipLine {fails : Bool} {reads left : List (List UInt8)}
    (h : skipLine fails reads = some left) : volume left ≤ volume reads := by
  induction reads with
  | nil =>
      simp only [skipLine] at h
      split at h
      · cases h
      · cases h
        exact Nat.le_refl _
  | cons read more ih =>
      cases read with
      | nil =>
          cases h
          simp [volume_cons]
      | cons b rest =>
          simp only [skipLine] at h
          split at h
          · have hle := ih h
            rw [volume_cons]
            omega
          · next c rest' hdrop =>
              cases h
              have happ := congrArg List.length
                (List.takeWhile_append_dropWhile (p := (· != lineFeed)) (l := b :: rest))
              rw [hdrop, List.length_append, List.length_cons] at happ
              rw [volume_putBack, volume_cons]
              omega

/-- The lines in the reads still to come when `limit` bytes are the most a line
may have. -/
def cut (fails : Bool) (limit : Nat) (reads : List (List UInt8)) : List Frame :=
  match _h : readLine fails (limit + 1) reads with
  | (none, _) => []
  | (some [], _) => []
  | (some (b :: rest), left) =>
    let kept := b :: rest
    if kept.length ≤ limit then .line kept :: cut fails limit left
    else if isEnded kept then .overlong kept :: cut fails limit left
    else
      match _h' : skipLine fails left with
      | some left => .overlong kept :: cut fails limit left
      | none => [.overlong kept]
termination_by volume reads
decreasing_by
  all_goals have hle := volume_readLine _h
  all_goals simp only [List.length_cons] at hle
  · omega
  · omega
  · have hle' := volume_skipLine _h'
    omega

end Framing

/-- The lines a stream delivers when `limit` bytes are the most a line may
have. -/
def Incoming.frames (limit : Nat) (incoming : Incoming) : List Frame :=
  Framing.cut incoming.failure.isSome limit incoming.reads

end PassiveFtp
