/-!
# Input

Input arrives in chunks of bytes. A line ends with a line feed, before which one carriage return is
dropped; what is left at the end of the input is a line too. A line is decoded as a whole, so a
chunk may end inside a character.
-/

namespace ApiConsole

/-- Bytes that arrive some time after the ones before them. -/
structure Chunk where
  delay : Nat
  bytes : List UInt8

/-- A line of input, or none where its bytes are no text. -/
abbrev Line := Option String

/-- The lines that a chunk completes. -/
structure Arrival where
  delay : Nat
  lines : List Line

namespace Input

def lineFeed : UInt8 := 10

def decode? (bytes : List UInt8) : Line :=
  String.fromUTF8? ⟨bytes.toArray⟩

def dropReturn (text : String) : String :=
  let cs := text.toList
  if cs.getLast? = some '\r' then String.ofList cs.dropLast else text

def lineOf (bytes : List UInt8) : Line :=
  (decode? bytes).map dropReturn

/-- Cuts bytes at every line feed, and gives the bytes behind the last one. -/
def cutLines : List UInt8 → List (List UInt8) × List UInt8
  | [] => ([], [])
  | byte :: rest =>
      let (lines, tail) := cutLines rest
      if byte = lineFeed then ([] :: lines, tail)
      else
        match lines with
        | [] => ([], byte :: tail)
        | line :: others => ((byte :: line) :: others, tail)

/-- The last line of the input, if it does not end with a line feed. -/
def lastLine (tail : List UInt8) : List Line :=
  if tail.isEmpty then [] else [decode? tail]

/-- The lines of chunks, the first of which follows the start of a line. -/
def arrivalsBehind (start : List UInt8) : List Chunk → List Arrival
  | [] => []
  | [chunk] =>
      let (lines, tail) := cutLines (start ++ chunk.bytes)
      [⟨chunk.delay, lines.map lineOf ++ lastLine tail⟩]
  | chunk :: rest =>
      let (lines, tail) := cutLines (start ++ chunk.bytes)
      ⟨chunk.delay, lines.map lineOf⟩ :: arrivalsBehind tail rest

def arrivals (chunks : List Chunk) : List Arrival :=
  arrivalsBehind [] chunks

def atOnce (bytes : List UInt8) : List Chunk :=
  [⟨0, bytes⟩]

end Input

end ApiConsole
