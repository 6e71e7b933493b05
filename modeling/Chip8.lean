import Chip8.Effect.Meaning
import Chip8.Main
import Chip8.Raster
import Chip8.Proofs.Chart
import Chip8.Proofs.Validation
import Chip8.Proofs.Cycle
import Chip8.Proofs.Session
import Chip8.Proofs.Bounds
import Chip8.Proofs.TwelveBits
import Chip8.Proofs.FrameCount
import Chip8.Proofs.Attempt
import Chip8.Proofs.FrameRuns
import Chip8.Proofs.Tracing
import Chip8.Proofs.FaultStop
import Chip8.Proofs.Passage
import Chip8.Proofs.Calls
import Chip8.Proofs.Stores
import Chip8.Proofs.Loading
import Chip8.Proofs.Draws
import Chip8.Proofs.KeyInput
import Chip8.Proofs.OutputOnly
import Chip8.Proofs.HeadlessReport
import Chip8.Proofs.WindowTurns
import Chip8.Proofs.WindowFrames
import Chip8.Proofs.FaultFreeze
import Chip8.Proofs.Sprites
import Chip8.Proofs.WindowVisits
import Chip8.Proofs.HeldKeys
import Chip8.Proofs.WindowSession
import Chip8.Proofs.OversizeProgram
import Chip8.Proofs.Arithmetic
import Chip8.Proofs.BlockTransfer
import Chip8.Proofs.Superposition
import Chip8.Proofs.Continuation
import Chip8.Proofs.WriteSets
import Chip8.Proofs.Timers
import Chip8.Proofs.KeyWait
import Chip8.Proofs.WideWords
import Chip8.Proofs.Parts
import Chip8.Proofs.Readback
import Chip8.Proofs.AssemblerText
import Chip8.Proofs.ListingText
import Chip8.Proofs.RegisterDump
import Chip8.Proofs.PixelImages
import Chip8.Proofs.PixelText
