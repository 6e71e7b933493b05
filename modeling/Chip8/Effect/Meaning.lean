import Chip8.Effect.Dispatch
import Chip8.Operation

/-! The effect of each operation of the chart by itself, without the route through its family. -/
namespace Chip8.Operation

/-- A machine call has no effect: it is never valid. -/
def effect : Operation → Effect
  | clear => Machine.clear
  | ret => Machine.ret
  | machineCall => fun _ m => m
  | jump => Machine.jump
  | call => Machine.call
  | skipEqualByte => Machine.skipEqualByte
  | skipUnequalByte => Machine.skipUnequalByte
  | skipEqual => Machine.skipEqual
  | loadByte => Machine.loadByte
  | addByte => Machine.addByte
  | copy => Machine.combine Arithmetic.copy
  | or => Machine.combine Arithmetic.or
  | and => Machine.combine Arithmetic.and
  | xor => Machine.combine Arithmetic.xor
  | add => Machine.combine Arithmetic.add
  | subtract => Machine.combine Arithmetic.subtract
  | shiftRight => Machine.combine Arithmetic.shiftRight
  | subtractFrom => Machine.combine Arithmetic.subtractFrom
  | shiftLeft => Machine.combine Arithmetic.shiftLeft
  | skipUnequal => Machine.skipUnequal
  | loadIndex => Machine.loadIndex
  | jumpOffset => Machine.jumpOffset
  | random => Machine.drawRandom
  | draw => Machine.draw
  | skipPressed => fun i m =>
    Machine.skipIf (decide (m.v.get i.x < 16) && m.isDown (m.v.get i.x)) m
  | skipReleased => fun i m =>
    Machine.skipIf (decide (m.v.get i.x < 16) && !m.isDown (m.v.get i.x)) m
  | readDelay => Machine.readDelay
  | waitKey => Machine.waitKey
  | setDelay => Machine.setDelay
  | setSound => Machine.setSound
  | addIndex => Machine.addIndex
  | glyph => Machine.glyph
  | digits => Machine.storeDigits
  | store => Machine.storeRegisters
  | load => Machine.loadRegisters

end Chip8.Operation
