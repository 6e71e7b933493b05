import Chip8.Image
import Chip8.Numeral
import Chip8.Text.Lowercase

/-! Image files: which format a path asks for, and the bytes of a picture in it. Nothing is
compressed, so the files are large but every reader accepts them. -/
namespace Chip8.ImageFile

/-- What becomes of a colour picture that is to be stored in a format. -/
inductive Ability where
  | stores
  /-- Only pictures with few colours or none can be stored. -/
  | fewColors
  /-- Storing is left to a handler that is not there. -/
  | noHandler
  | readsOnly
  deriving DecidableEq, Repr

structure Format where
  name : String
  ability : Ability
  deriving DecidableEq, Repr

def Format.registered : List (Format × List String) :=
  [(⟨"AVIF", .stores⟩, [".avif", ".avifs"]),
   (⟨"BLP", .fewColors⟩, [".blp"]),
   (⟨"BMP", .stores⟩, [".bmp"]),
   (⟨"BUFR", .noHandler⟩, [".bufr"]),
   (⟨"CUR", .readsOnly⟩, [".cur"]),
   (⟨"DCX", .readsOnly⟩, [".dcx"]),
   (⟨"DDS", .stores⟩, [".dds"]),
   (⟨"DIB", .stores⟩, [".dib"]),
   (⟨"EPS", .stores⟩, [".eps", ".ps"]),
   (⟨"FITS", .readsOnly⟩, [".fit", ".fits"]),
   (⟨"FLI", .readsOnly⟩, [".flc", ".fli"]),
   (⟨"FTEX", .readsOnly⟩, [".ftc", ".ftu"]),
   (⟨"GBR", .readsOnly⟩, [".gbr"]),
   (⟨"GIF", .stores⟩, [".gif"]),
   (⟨"GRIB", .noHandler⟩, [".grib"]),
   (⟨"HDF5", .noHandler⟩, [".h5", ".hdf"]),
   (⟨"ICNS", .stores⟩, [".icns"]),
   (⟨"ICO", .stores⟩, [".ico"]),
   (⟨"IM", .stores⟩, [".im"]),
   (⟨"IPTC", .readsOnly⟩, [".iim"]),
   (⟨"JPEG", .stores⟩, [".jfif", ".jpe", ".jpeg", ".jpg"]),
   (⟨"JPEG2000", .stores⟩, [".j2c", ".j2k", ".jp2", ".jpc", ".jpf", ".jpx"]),
   (⟨"MPEG", .readsOnly⟩, [".mpeg", ".mpg"]),
   (⟨"MPO", .stores⟩, [".mpo"]),
   (⟨"MSP", .fewColors⟩, [".msp"]),
   (⟨"Palm", .fewColors⟩, [".palm"]),
   (⟨"PCD", .readsOnly⟩, [".pcd"]),
   (⟨"PCX", .stores⟩, [".pcx"]),
   (⟨"PDF", .stores⟩, [".pdf"]),
   (⟨"PIXAR", .readsOnly⟩, [".pxr"]),
   (⟨"PNG", .stores⟩, [".apng", ".png"]),
   (⟨"PPM", .stores⟩, [".pbm", ".pfm", ".pgm", ".pnm", ".ppm"]),
   (⟨"PSD", .readsOnly⟩, [".psd"]),
   (⟨"QOI", .stores⟩, [".qoi"]),
   (⟨"SGI", .stores⟩, [".bw", ".rgb", ".rgba", ".sgi"]),
   (⟨"SUN", .readsOnly⟩, [".ras"]),
   (⟨"TGA", .stores⟩, [".icb", ".tga", ".vda", ".vst"]),
   (⟨"TIFF", .stores⟩, [".tif", ".tiff"]),
   (⟨"WEBP", .stores⟩, [".webp"]),
   (⟨"WMF", .noHandler⟩, [".emf", ".wmf"]),
   (⟨"XBM", .fewColors⟩, [".xbm"]),
   (⟨"XPM", .readsOnly⟩, [".xpm"])]

inductive Refusal where
  | unknownExtension (extension : String)
  | unable (format : Format)
  deriving DecidableEq, Repr

def Refusal.message : Refusal → String
  | .unknownExtension extension => "unknown file extension: " ++ extension
  | .unable format => "no colour picture can be stored as " ++ format.name

/-- The last dot of the file name and what follows it, in small letters; dots at the start of the
name open no extension. -/
def extensionOf (path : String) : String :=
  let name := (path.toList.reverse.takeWhile (· != '/')).reverse.dropWhile (· == '.')
  let tail := name.reverse.takeWhile (· != '.')
  if tail.length < name.length then Text.lowercase (String.ofList ('.' :: tail.reverse)) else ""

def Format.ofPath (path : String) : Except Refusal Format :=
  let extension := extensionOf path
  match registered.find? fun entry => entry.2.contains extension with
  | some (format, _) => .ok format
  | none => .error (.unknownExtension extension)

def Format.storing (path : String) : Except Refusal Format := do
  let format ← ofPath path
  if format.ability = .stores then .ok format else .error (.unable format)

/-- Least significant byte first. -/
def littleEndian (count n : Nat) : List UInt8 :=
  (List.range count).map fun k => UInt8.ofNat (n >>> (8 * k))

def bigEndian (count n : Nat) : List UInt8 := (littleEndian count n).reverse

def rowBytes {width : Nat} (order : Color → List UInt8) (row : Vector Color width) :
    List UInt8 :=
  row.toList.flatMap order

/-- A bitmap without the header of a file: rows from the bottom, blue first, each filled up to a
multiple of four bytes. -/
def dib (p : Picture) : List UInt8 :=
  let fill := (4 - p.width * 3 % 4) % 4
  let rows := p.pixels.toList.reverse.flatMap fun row =>
    rowBytes (fun c => [c.blue, c.green, c.red]) row ++ List.replicate fill 0
  littleEndian 4 40 ++ littleEndian 4 p.width ++ littleEndian 4 p.height ++ littleEndian 2 1 ++
    littleEndian 2 24 ++ littleEndian 4 0 ++ littleEndian 4 rows.length ++
    littleEndian 4 2835 ++ littleEndian 4 2835 ++ littleEndian 4 0 ++ littleEndian 4 0 ++ rows

def bmp (p : Picture) : List UInt8 :=
  let content := dib p
  [0x42, 0x4D] ++ littleEndian 4 (14 + content.length) ++ littleEndian 4 0 ++
    littleEndian 4 54 ++ content

/-- The size in decimal, then rows from the top, red first. -/
def ppm (p : Picture) : List UInt8 :=
  let header := "P6\n" ++ Numeral.decimal p.width ++ " " ++ Numeral.decimal p.height ++ "\n255\n"
  header.toUTF8.toList ++
    p.pixels.toList.flatMap (rowBytes fun c => [c.red, c.green, c.blue])

/-- Rows from the bottom, blue first. -/
def tga (p : Picture) : List UInt8 :=
  [0, 0, 2, 0, 0, 0, 0, 0, 0, 0, 0, 0] ++ littleEndian 2 p.width ++ littleEndian 2 p.height ++
    [24, 0] ++ p.pixels.toList.reverse.flatMap (rowBytes fun c => [c.blue, c.green, c.red])

def crcStep (crc : UInt32) : UInt32 :=
  if crc &&& 1 = 1 then (crc >>> 1) ^^^ 0xEDB88320 else crc >>> 1

/-- The cyclic redundancy check that closes a chunk. -/
def crc32 (bytes : List UInt8) : UInt32 :=
  let folded := bytes.foldl (fun crc b => Nat.repeat crcStep 8 (crc ^^^ b.toUInt32)) 0xFFFFFFFF
  folded ^^^ 0xFFFFFFFF

/-- The checksum that closes a compressed stream. -/
def adler32 (bytes : List UInt8) : Nat :=
  let sums := bytes.foldl (fun (a, b) byte =>
    let a := (a + byte.toNat) % 65521
    (a, (b + a) % 65521)) (1, 0)
  sums.2 * 65536 + sums.1

/-- Blocks of at most 65535 bytes that are stored as they are. -/
def storedBlocks (bytes : List UInt8) : List UInt8 :=
  let block := bytes.take 65535
  let header (last : UInt8) : List UInt8 :=
    last :: littleEndian 2 block.length ++ littleEndian 2 (65535 - block.length)
  if _h : bytes.length ≤ 65535 then header 1 ++ block
  else header 0 ++ block ++ storedBlocks (bytes.drop 65535)
termination_by bytes.length
decreasing_by simp; omega

def chunk (name : String) (content : List UInt8) : List UInt8 :=
  let body := name.toUTF8.toList ++ content
  bigEndian 4 content.length ++ body ++ bigEndian 4 (crc32 body).toNat

/-- Rows from the top, red first, each behind the byte that says it is not filtered. -/
def png (p : Picture) : List UInt8 :=
  let rows := p.pixels.toList.flatMap fun row =>
    0 :: rowBytes (fun c => [c.red, c.green, c.blue]) row
  [0x89, 0x50, 0x4E, 0x47, 0x0D, 0x0A, 0x1A, 0x0A] ++
    chunk "IHDR" (bigEndian 4 p.width ++ bigEndian 4 p.height ++ [8, 2, 0, 0, 0]) ++
    chunk "IDAT" ([0x78, 0x01] ++ storedBlocks rows ++ bigEndian 4 (adler32 rows)) ++
    chunk "IEND" []

def encoders : List (String × (Picture → List UInt8)) :=
  [("BMP", bmp), ("DIB", dib), ("PNG", png), ("PPM", ppm), ("TGA", tga)]

/-- The bytes of a picture, in the formats that need no compression. -/
def encode? (format : Format) (p : Picture) : Option (List UInt8) :=
  (encoders.lookup format.name).map fun encoder => encoder p

end Chip8.ImageFile
