import Chip8.CommandLine.Options
import Chip8.Headless
import Chip8.ImageFile
import Chip8.Platform
import Chip8.Text.Quoted

/-! What hosts do for the user to see, as data, and what stops them for good. -/
namespace Chip8

inductive Action where
  | print (text : String)
  | log (record : Log.Record)
  | followRun (bar : Progress)
  | saveImage (path : String) (drawing : Drawing)
  | openWindow (width height : Setting Int) (caption : String) (rate : Nat)
  | present (drawing : Drawing)
  | closeWindow

inductive HostError where
  | noValue (flag : CommandLine.Flag)
  | logLevel (e : UnknownChoice)
  | palette (e : UnknownChoice)
  | seedTooWide (seed : Int)
  | missingFile (path : String)
  | oversize (e : Oversize)
  | run (e : RunError)
  | extent (e : ExtentError)
  | noWindow (width height : Setting Int)
  | notDrawn (columns rows : Nat)
  | image (e : ImageFile.Refusal)
  deriving DecidableEq, Repr

def HostError.message : HostError → String
  | .noValue flag => "option " ++ flag.name ++ " has no value"
  | .logLevel e => e.message
  | .palette e => e.message
  | .seedTooWide seed => "seed " ++ toString seed ++ " does not fit in 64 bits"
  | .missingFile path => "no such file: " ++ Text.quoted path
  | .oversize e => e.message
  | .run e => e.message
  | .extent e => e.message
  | .noWindow _ _ => "no window of this size can be opened"
  | .notDrawn columns rows =>
    "an image of the shape " ++ Extent.text [columns, rows] ++ " cannot be drawn into the window"
  | .image e => e.message

end Chip8
