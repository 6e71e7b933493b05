import Chip8.Machine

/-! Loads of constants and random bytes, and the timers, the keypad and the index register as
they are seen from VX. -/
namespace Chip8.Machine

def setV (m : Machine) (x : Fin 16) (byte : UInt8) : Machine := { m with v := Digit.put m.v x byte }

def loadByte : Effect := fun i m => m.setV i.x i.nn

/-- Word 7XNN: the sum wraps and VF is not a carry. -/
def addByte : Effect := fun i m => m.setV i.x (m.v.get i.x + i.nn)

def loadIndex : Effect := fun i m => { m with i := i.nnn }

/-- Word CXNN: one byte of the stream under the mask NN. -/
def drawRandom : Effect := fun i m =>
  { m.setV i.x (m.random.byte &&& i.nn) with random := m.random.next }

def readDelay : Effect := fun i m => m.setV i.x m.delay

/-- Word FX0A: the lowest key that is down; with none, step back so that the same word runs
again. -/
def waitKey : Effect := fun i m =>
  match m.keypad.lowest? with
  | some key => m.setV i.x (UInt8.ofNat key)
  | none => { m with pc := m.pc - 2 }

def setDelay : Effect := fun i m => { m with delay := m.v.get i.x }

def setSound : Effect := fun i m => { m with sound := m.v.get i.x }

/-- Word FX1E: sixteen bits, and VF is not a carry. -/
def addIndex : Effect := fun i m => { m with i := m.i + (m.v.get i.x).toUInt16 }

/-- Word FX29: glyphs are five bytes each from address zero, also beyond the last digit. -/
def glyph : Effect := fun i m => { m with i := (m.v.get i.x).toUInt16 * 5 }

end Chip8.Machine
