import Visa.Proofs.Bytewise.Slice
import Visa.Proofs.Cut

namespace Visa.Bytewise

/-! The cut of a text into records, by positions in its bytes. A record is not collected while it
is scanned: the position of the brace that opens it is kept, and the record is sliced out at the
brace that closes it. -/

/-- The characters of a text with their positions, of which the first is given. -/
def indices : Nat → List Char → List (Nat × Char)
  | _, [] => []
  | index, letter :: rest => (index, letter) :: indices (index + letter.utf8Size) rest

structure Cut where
  records : List (List UInt8)
  tail : Option (List UInt8)
deriving DecidableEq, Repr

/-- The records that are sliced out, the number of braces open, and where the open record starts. -/
structure Scan where
  records : List (List UInt8)
  depth : Nat
  start : Option Nat
deriving DecidableEq, Repr

def Scan.empty : Scan := ⟨[], 0, none⟩

def Scan.step (body : List UInt8) (scan : Scan) (place : Nat × Char) : Except Trap Scan :=
  if place.2 = '{' then
    .ok { scan with
      depth := scan.depth + 1
      start := if scan.depth = 0 then some place.1 else scan.start }
  else if place.2 = '}' ∧ 0 < scan.depth then do
    let depth ← decrement scan.depth
    match depth, scan.start with
    | 0, some start =>
        let record ← slice body start (place.1 + 1)
        return ⟨scan.records ++ [record], 0, none⟩
    | depth, _ => return { scan with depth := depth }
  else .ok scan

def cut (text : List UInt8) : Except Trap Cut := do
  let trimmed ← onText Text.trim text
  let opened ← onText Record.withoutOpening trimmed
  let body ← onText Record.withoutClosing opened
  let letters ← decode body
  let scan ← (indices 0 letters).foldlM (Scan.step body) Scan.empty
  match scan.start with
  | none => return ⟨scan.records, none⟩
  | some start => return ⟨scan.records, some (← sliceFrom body start)⟩

def encodeCut (cut : Record.Cut) : Cut := ⟨cut.records.map encode, cut.tail.map encode⟩

namespace Scan

variable {body before rest : List Char} {letter : Char} {scan : Record.Scan} {places : Scan}

/-- Behind the same text, a scan of the bytes knows by positions what a scan of the text holds. -/
structure Tracks (before : List Char) (scan : Record.Scan) (places : Scan) : Prop where
  records : places.records = scan.finished.reverse.map encode
  depth : places.depth = scan.depth
  outside : scan.depth = 0 → places.start = none
  inside : scan.depth ≠ 0 → ∃ lead, before = lead ++ scan.held.reverse ∧
    places.start = some (Text.byteSize lead)

theorem tracks_empty : Tracks [] Record.Scan.start empty :=
  ⟨rfl, rfl, fun _ => rfl, fun inside => absurd rfl inside⟩

theorem step_open (index : Nat) : places.step (encode body) (index, '{') =
    .ok { places with
      depth := places.depth + 1
      start := if places.depth = 0 then some index else places.start } := rfl

theorem step_other (index : Nat) (notOpen : letter ≠ '{') (notClose : letter ≠ '}') :
    places.step (encode body) (index, letter) = .ok places := by
  rw [step, if_neg notOpen, if_neg fun close => notClose close.1]

theorem Tracks.opening (tracks : Tracks before scan places) :
    ∃ next, places.step (encode body) (Text.byteSize before, '{') = .ok next ∧
      Tracks (before ++ ['{']) (scan.step '{') next := by
  obtain ⟨finished, held, depth⟩ := scan
  obtain ⟨records, same, outside, inside⟩ := tracks
  refine ⟨_, step_open _, ?_⟩
  cases depth with
  | zero =>
      exact ⟨records, by simp [same, Record.Scan.step],
        fun outside => absurd outside Nat.one_ne_zero, fun _ => ⟨before, rfl, if_pos same⟩⟩
  | succ depth =>
      obtain ⟨lead, whole, start⟩ := inside (Nat.succ_ne_zero depth)
      refine ⟨records, by simp [same, Record.Scan.step],
        fun outside => absurd outside (Nat.succ_ne_zero _), fun _ => ⟨lead, ?_, ?_⟩⟩
      · simp [whole, Record.Scan.step]
      · simp [same, start]

/-- The record runs from its opening brace to behind the closing one, which is one byte. -/
theorem slice_record (lead held rest : List Char) :
    slice (encode (lead ++ held.reverse ++ '}' :: rest)) (Text.byteSize lead)
      (Text.byteSize (lead ++ held.reverse) + 1) = .ok (encode ('}' :: held).reverse) := by
  have size : Text.byteSize (lead ++ held.reverse) + 1 =
      Text.byteSize lead + Text.byteSize ('}' :: held).reverse := by
    rw [List.reverse_cons, byteSize_concat rfl, Text.byteSize_append, Nat.add_assoc]
  have whole : lead ++ held.reverse ++ '}' :: rest = lead ++ ('}' :: held).reverse ++ rest := by
    simp
  rw [size, whole, slice_encode]

/-- The guard keeps the depth from being lowered outside of records. -/
theorem Tracks.closing (tracks : Tracks before scan places) (whole : body = before ++ '}' :: rest) :
    ∃ next, places.step (encode body) (Text.byteSize before, '}') = .ok next ∧
      Tracks (before ++ ['}']) (scan.step '}') next := by
  obtain ⟨finished, held, depth⟩ := scan
  obtain ⟨found, count, start⟩ := places
  obtain ⟨records, same, outside, inside⟩ := tracks
  dsimp only at records same outside inside
  subst same
  match count with
  | 0 => exact ⟨_, rfl, records, rfl, outside, fun inside => absurd rfl inside⟩
  | 1 =>
      obtain ⟨lead, front, rfl⟩ := inside Nat.one_ne_zero
      have record := slice_record lead held rest
      rw [← front, ← whole] at record
      refine ⟨⟨found ++ [encode ('}' :: held).reverse], 0, none⟩, ?_, ?_⟩
      · rw [step, if_neg (show '}' ≠ '{' by decide), if_pos ⟨rfl, Nat.one_pos⟩]
        simp only [decrement, ok_bind, record]
        rfl
      · exact ⟨by simp [records, Record.Scan.step], rfl, fun _ => rfl,
          fun inside => absurd rfl inside⟩
  | depth + 2 =>
      obtain ⟨lead, front, rfl⟩ := inside (Nat.succ_ne_zero _)
      exact ⟨_, rfl, records, rfl, fun outside => absurd outside (Nat.succ_ne_zero _),
        fun _ => ⟨lead, by simp [front, Record.Scan.step], rfl⟩⟩

theorem Tracks.other (tracks : Tracks before scan places) (notOpen : letter ≠ '{')
    (notClose : letter ≠ '}') : Tracks (before ++ [letter]) (scan.step letter) places := by
  obtain ⟨finished, held, depth⟩ := scan
  obtain ⟨records, same, outside, inside⟩ := tracks
  cases depth with
  | zero =>
      rw [Record.Scan.step_outside rfl notOpen]
      exact ⟨records, same, outside, fun inside => absurd rfl inside⟩
  | succ depth =>
      rw [Record.Scan.step_inside finished held depth notOpen notClose]
      obtain ⟨lead, whole, start⟩ := inside (Nat.succ_ne_zero depth)
      exact ⟨records, same, fun outside => absurd outside (Nat.succ_ne_zero _),
        fun _ => ⟨lead, by simp [whole], start⟩⟩

theorem Tracks.step (tracks : Tracks before scan places) (whole : body = before ++ letter :: rest) :
    ∃ next, places.step (encode body) (Text.byteSize before, letter) = .ok next ∧
      Tracks (before ++ [letter]) (scan.step letter) next := by
  by_cases isOpen : letter = '{'
  · subst isOpen
    exact tracks.opening
  by_cases isClose : letter = '}'
  · subst isClose
    exact tracks.closing whole
  · exact ⟨places, step_other _ isOpen isClose, tracks.other isOpen isClose⟩

theorem Tracks.foldlM (tracks : Tracks before scan places) (whole : body = before ++ rest) :
    ∃ last, (indices (Text.byteSize before) rest).foldlM (Scan.step (encode body)) places =
      .ok last ∧ Tracks body (rest.foldl Record.Scan.step scan) last := by
  induction rest generalizing before scan places with
  | nil =>
      rw [List.append_nil] at whole
      exact ⟨places, rfl, whole ▸ tracks⟩
  | cons letter rest ih =>
      obtain ⟨next, stepped, here⟩ := tracks.step whole
      obtain ⟨last, run, there⟩ := ih here (by rw [whole, List.append_assoc, List.singleton_append])
      rw [Text.byteSize_append] at run
      refine ⟨last, ?_, there⟩
      rw [indices, List.foldlM_cons, stepped]
      exact run

end Scan

theorem cut_encode (text : List Char) : cut (encode text) = .ok (encodeCut (.ofText text)) := by
  obtain ⟨last, run, records, depth, outside, inside⟩ :=
    Scan.tracks_empty.foldlM (List.nil_append (Record.body text)).symm
  rw [Text.byteSize] at run
  simp only [cut, onText_encode, decode_encode, ok_bind, ← Record.body_eq, run, encodeCut,
    Record.Cut.ofText, Record.cut, Record.Scan.finish]
  by_cases closed : ((Record.body text).foldl Record.Scan.step Record.Scan.start).depth = 0
  · simp only [outside closed, records, if_pos closed]
    rfl
  · obtain ⟨lead, front, opened⟩ := inside closed
    have tail := sliceFrom_encode lead
      ((Record.body text).foldl Record.Scan.step Record.Scan.start).held.reverse
    rw [← front] at tail
    simp only [opened, records, if_neg closed, tail, ok_bind]
    rfl

end Visa.Bytewise
