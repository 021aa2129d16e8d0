/-! Patterns for names: a star stands for any characters, a question mark for one, and a class in brackets for one of
its members, or for one that is none of them after an exclamation mark. -/

namespace ModelForge.Glob

inductive Piece where
  | star
  | any
  | oneOf (isNegated : Bool) (ranges : List (Char × Char))
  | char (c : Char)
  deriving DecidableEq, Repr

def single (c : Char) : Char × Char := (c, c)

/-- The text of a class up to the bracket that closes it, and what follows; a bracket at its very start belongs to it. -/
def classBody (s : List Char) : Option (List Char × List Char) :=
  let sign := s.takeWhile (· = '!') |>.take 1
  let rest := s.drop sign.length
  let first := rest.takeWhile (· = ']') |>.take 1
  let more := rest.drop first.length
  match more.dropWhile (· ≠ ']') with
  | _ :: after => some (sign ++ first ++ more.takeWhile (· ≠ ']'), after)
  | [] => none

/-- Cuts the text of a class at the hyphens that make ranges: none of its first `held` characters is one, and two
characters follow each hyphen before the next. -/
def chunks (held : Nat) (chunk : List Char) : List Char → List (List Char)
  | [] => [chunk.reverse]
  | c :: rest =>
    match held with
    | held + 1 => chunks held (c :: chunk) rest
    | 0 => if c = '-' then chunk.reverse :: chunks 2 [] rest else chunks 0 (c :: chunk) rest

def keepFinalHyphen : List (List Char) → List (List Char)
  | [] => []
  | [chunk, []] => [chunk ++ ['-']]
  | chunk :: rest => chunk :: keepFinalHyphen rest

/-- Joins neighbours whose range would be empty, from the last to the first, without the two ends of that range. -/
def dropEmptyRanges : List (List Char) → List (List Char)
  | [] => []
  | chunk :: rest =>
    match chunk.getLast?, dropEmptyRanges rest with
    | some low, (high :: others) :: more => if high < low then (chunk.dropLast ++ others) :: more
        else chunk :: (high :: others) :: more
    | _, more => chunk :: more

def rangesOf : List (List Char) → List (Char × Char)
  | [] => []
  | [chunk] => chunk.map single
  | chunk :: next :: rest =>
    match chunk.getLast?, next with
    | some low, high :: _ => chunk.dropLast.map single ++ (low, high) :: (rangesOf (next :: rest)).drop 1
    | _, _ => chunk.map single ++ rangesOf (next :: rest)

def classPiece (body : List Char) : Piece :=
  let held := if body.head? = some '!' then 2 else 1
  let joined := dropEmptyRanges (keepFinalHyphen (chunks held [] body))
  match joined with
  | ('!' :: chunk) :: rest => if chunk.isEmpty && rest.isEmpty then .any else .oneOf true (rangesOf (chunk :: rest))
  | _ => .oneOf false (rangesOf joined)

theorem classBody_length {s body rest : List Char} (h : classBody s = some (body, rest)) : rest.length < s.length := by
  unfold classBody at h
  simp only at h
  split at h
  · next c after hd =>
    obtain ⟨rfl, rfl⟩ := Prod.mk.inj (Option.some.inj h)
    have := congrArg List.length hd
    have hle := (List.dropWhile_sublist (fun c : Char => decide (c ≠ ']'))
      (l := (s.drop (s.takeWhile (· = '!') |>.take 1).length).drop
        ((s.drop (s.takeWhile (· = '!') |>.take 1).length).takeWhile (· = ']') |>.take 1).length)).length_le
    simp only [List.length_cons, List.length_drop] at this hle
    omega
  · simp at h

def pieces (pattern : List Char) : List Piece :=
  match pattern with
  | [] => []
  | '*' :: rest => .star :: pieces rest
  | '?' :: rest => .any :: pieces rest
  | '[' :: rest =>
    match h : classBody rest with
    | some (body, after) =>
      have := classBody_length h
      classPiece body :: pieces after
    | none => .char '[' :: pieces rest
  | c :: rest => .char c :: pieces rest
termination_by pattern.length

def Piece.accepts (c : Char) : Piece → Bool
  | star => true
  | any => true
  | oneOf isNegated ranges => (ranges.any fun (low, high) => low ≤ c && c ≤ high) != isNegated
  | char d => c = d

def fits : List Piece → List Char → Bool
  | [], name => name.isEmpty
  | .star :: rest, [] => fits rest []
  | .star :: rest, c :: name => fits rest (c :: name) || fits (.star :: rest) name
  | _ :: _, [] => false
  | piece :: rest, c :: name => piece.accepts c && fits rest name
termination_by pieces name => pieces.length + name.length

def isMatch (pattern name : List Char) : Bool := fits (pieces pattern) name

def isWild (pattern : List Char) : Bool := pattern.any fun c => c = '*' || c = '?' || c = '['

end ModelForge.Glob
