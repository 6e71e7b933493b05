import Chip8.Numeral

/-! The settings and the count of the bar that follows a long run, and when it can be drawn. -/
namespace Chip8

structure Progress where
  total : Int
  description : String
  first : Int
  count : Int
  deriving DecidableEq, Repr

/-- A bar shows the share of the work that is done, the speed, and the time for the rest as
floating point numbers. Each of them can be too large for one, and a count can be too long to be
written. -/
inductive ProgressError where
  | total
  | speed
  | digits
  | rest
  | share
  deriving DecidableEq, Repr

def ProgressError.message : ProgressError → String
  | .total => "too many frames to be followed"
  | .speed => "too many frames were done since the start"
  | .digits => "the number of frames has too many digits"
  | .rest => "too many frames are left to be followed"
  | .share => "too many frames are done already to be followed"

namespace Progress

def unit : String := "frame"

/-- What stands beside a bar: the number of frames, if nothing else is given. -/
def label (total : Int) : Option String → Except ProgressError String
  | some description => .ok description
  | none =>
    if Numeral.isWritable total then .ok ("Running (" ++ Numeral.grouped total ++ " frames)")
    else .error .digits

def ofTotal (total : Int) (description : Option String) (first : Int) :
    Except ProgressError Progress :=
  (label total description).map fun text => ⟨total, text, first, first⟩

def update (p : Progress) (done : Int) : Progress := { p with count := p.count + done }

def done (p : Progress) : Int := p.count - p.first

def isFull (p : Progress) : Bool := 2 * p.total + 1 ≤ 2 * p.count

/-- Only a bar with a total that is not full shows the rest and the share; there is no time for
the rest before anything is done. -/
def showsShare (p : Progress) : Bool := p.total != 0 && !p.isFull

def obstacle? (p : Progress) : Option ProgressError :=
  if Numeral.limit ≤ p.total.natAbs then some .total
  else if Numeral.limit ≤ p.done.natAbs then some .speed
  else if !Numeral.isWritable p.count then some .digits
  else if p.showsShare ∧ p.done ≠ 0 ∧ Numeral.limit ≤ (p.total - p.count).natAbs then
    some .rest
  else if p.showsShare ∧ Numeral.limit * p.total.natAbs ≤ p.count.natAbs then some .share
  else none

def drawn (p : Progress) : Except ProgressError Progress :=
  match p.obstacle? with
  | some e => .error e
  | none => .ok p

/-- A bar is first drawn before anything is done. -/
def start (total : Int) (description : Option String) (first : Int) :
    Except ProgressError Progress := do
  (← ofTotal total description first).drawn

end Progress
end Chip8
