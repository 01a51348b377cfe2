import Visa.Text.Blank

namespace Visa.Record

/-! The rule text as a sequence of records. A record starts at an opening brace that no other
encloses and runs to the brace that closes it; what stands between records is ignored. -/

/-- `tail` starts at the outermost brace that was never closed. -/
structure Cut where
  records : List (List Char)
  tail : Option (List Char)
deriving DecidableEq, Repr

/-- The state of a scan: the finished records, latest first, and the characters of the open one,
latest first, with the number of braces open in it. -/
structure Scan where
  finished : List (List Char)
  held : List Char
  depth : Nat
deriving DecidableEq, Repr

namespace Scan

def start : Scan := ⟨[], [], 0⟩

/-- A closing brace outside every record is ignored like any other character there. -/
def step (scan : Scan) (letter : Char) : Scan :=
  match scan.depth, letter with
  | 0, '{' => { scan with held := ['{'], depth := 1 }
  | 0, _ => scan
  | depth + 1, '{' => { scan with held := '{' :: scan.held, depth := depth + 2 }
  | 1, '}' => ⟨('}' :: scan.held).reverse :: scan.finished, [], 0⟩
  | depth + 2, '}' => { scan with held := '}' :: scan.held, depth := depth + 1 }
  | _, letter => { scan with held := letter :: scan.held }

def finish (scan : Scan) : Cut where
  records := scan.finished.reverse
  tail := if scan.depth = 0 then none else some scan.held.reverse

/-- Outside of records only an opening brace matters. -/
theorem step_outside {scan : Scan} {letter : Char} (outside : scan.depth = 0)
    (other : letter ≠ '{') : scan.step letter = scan := by
  unfold step
  split <;> simp_all

theorem foldl_step_outside {scan : Scan} {text : List Char} (outside : scan.depth = 0)
    (other : '{' ∉ text) : text.foldl step scan = scan := by
  induction text with
  | nil => rfl
  | cons letter rest ih =>
      simp only [List.mem_cons, not_or] at other
      rw [List.foldl_cons, step_outside outside (Ne.symm other.1), ih other.2]

end Scan

def cut (body : List Char) : Cut := (body.foldl Scan.step Scan.start).finish

/-- The text without the blanks and the one pair of square brackets that may enclose it; either
bracket goes without the other. -/
def body (text : List Char) : List Char :=
  let trimmed := Text.trim text
  let opened := if trimmed.head? = some '[' then trimmed.tail else trimmed
  if opened.getLast? = some ']' then opened.dropLast else opened

def Cut.ofText (text : List Char) : Cut := cut (body text)

end Visa.Record
