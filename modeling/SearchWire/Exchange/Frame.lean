import SearchWire.Token

/-!
# Frames

A command ready to be sent: its name and its arguments. On the wire a frame is a RESP array of bulk
strings. Every length is written in front of the octets it counts, so no octet of a name or of an
argument needs an escape.
-/
namespace SearchWire

/-- A command name and its arguments. -/
structure Frame where
  /-- The name of the command. -/
  name : String
  /-- The arguments in order. -/
  args : List Token
deriving DecidableEq

namespace Frame

/-- The frame as it is shown: name and arguments with one space between neighbours. -/
def shown (f : Frame) : String := String.intercalate " " (f.name :: f.args.map Token.shown)

/-- The octets that end a line. -/
def lineEnd : List UInt8 := [13, 10]

/-- A mark, a number, and the end of the line. -/
def header (mark : UInt8) (n : Nat) : List UInt8 :=
  mark :: (Octets.ofText (toString n) ++ lineEnd)

/-- Octets behind their number. -/
def bulk (payload : List UInt8) : List UInt8 :=
  header 36 payload.length ++ payload ++ lineEnd

/-- The frame as it is sent. -/
def octets (f : Frame) : List UInt8 :=
  header 42 (f.args.length + 1) ++ bulk (Octets.ofText f.name) ++
    f.args.flatMap fun t => bulk t.octets

end Frame

end SearchWire
