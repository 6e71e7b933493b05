/-! Lines of a text, as a console log repeats them. A break is any of the characters that Unicode
treats as ending a line, with carriage return and line feed together counting once. -/
namespace Chip8.Text

def isLineBreak (c : Char) : Bool :=
  let n := c.toNat
  (0x0A ≤ n && n ≤ 0x0D) || (0x1C ≤ n && n ≤ 0x1E) || [0x85, 0x2028, 0x2029].contains n

/-- The characters up to the first break, and what follows that break if there is one. -/
def cutLine : List Char → List Char × Option (List Char)
  | [] => ([], none)
  | '\r' :: '\n' :: rest => ([], some rest)
  | c :: rest =>
    if isLineBreak c then ([], some rest) else (cutLine rest).map (c :: ·) id

theorem length_of_cutLine {text rest : List Char} (h : (cutLine text).2 = some rest) :
    rest.length < text.length := by
  fun_induction cutLine text generalizing rest with
  | case1 => cases h
  | case2 tail =>
    cases h
    simp only [List.length_cons]
    omega
  | case3 c tail =>
    cases h
    exact Nat.lt_succ_self tail.length
  | case4 c tail _ _ ih => exact Nat.lt_succ_of_lt (ih h)

/-- A break at the very end opens no further line. -/
def splitLines (text : List Char) : List (List Char) :=
  if text = [] then []
  else
    match _h : (cutLine text).2 with
    | none => [(cutLine text).1]
    | some rest => (cutLine text).1 :: splitLines rest
termination_by text.length
decreasing_by exact length_of_cutLine _h

def lines (text : String) : List String := (splitLines text.toList).map String.ofList

end Chip8.Text
