import Courier.Bytes

/-!
# Length-prefixed frames

A frame is the length of a payload in four bytes, most significant first, and then the
payload. The length counts payload bytes alone, so a frame of length zero is a real, empty
message. A `FrameBuffer` holds the bytes of one inbound stream that belong to no payload
handed out so far, and refuses every length above its limit.

A refused length is never skipped: nothing after it can be told apart from payload bytes.
-/

namespace Courier

namespace Frame

/-- The number of bytes in front of each payload. -/
def prefixLength : Nat := 4

/-- The limit on payloads where none is configured: sixteen mebibytes. -/
def defaultLimit : Nat := 16 * 1024 * 1024

/-- The largest length that four bytes can state. -/
def largestLength : Nat := 4294967295

/-- What can be wrong with a stream of frames. -/
inductive Fault where
  /-- A frame announces, or would need, more bytes than are allowed. -/
  | tooLarge (length limit : Nat)
  /-- The stream ended inside a frame, of which this many bytes had arrived. -/
  | incomplete (buffered : Nat)
deriving DecidableEq, Repr

/-- The wording of a framing fault. -/
def Fault.message : Fault → String
  | .tooLarge length limit => s!"frame of {length} bytes exceeds limit of {limit} bytes"
  | .incomplete buffered => s!"stream closed with {buffered} bytes of an incomplete frame buffered"

/-- The four bytes that state a length. -/
def lengthBytes (n : Nat) : Bytes :=
  [(n / 16777216).toUInt8, (n / 65536).toUInt8, (n / 256).toUInt8, n.toUInt8]

/-- The length that four bytes state. -/
def lengthOf (a b c d : UInt8) : Nat :=
  a.toNat * 16777216 + b.toNat * 65536 + c.toNat * 256 + d.toNat

/-- Every length bytes stand for comes back from them. -/
theorem lengthOf_lengthBytes {n : Nat} (h : n ≤ largestLength) :
    lengthOf (n / 16777216).toUInt8 (n / 65536).toUInt8 (n / 256).toUInt8 n.toUInt8 = n := by
  simp only [lengthOf, largestLength] at *
  simp only [Nat.toUInt8_eq, UInt8.toNat_ofNat']
  omega

/-- Four bytes state at most the largest length. -/
theorem lengthOf_le (a b c d : UInt8) : lengthOf a b c d ≤ largestLength := by
  have ha := a.toNat_lt
  have hb := b.toNat_lt
  have hc := c.toNat_lt
  have hd := d.toNat_lt
  simp only [lengthOf, largestLength]
  omega

/-- The frame of a payload, which fails only for a payload that four bytes cannot measure. -/
def encode (payload : Bytes) : Except Fault Bytes :=
  if payload.length ≤ largestLength then .ok (lengthBytes payload.length ++ payload)
  else .error (.tooLarge payload.length largestLength)

end Frame

/-- The bytes of an inbound stream that still wait to become a payload. -/
structure FrameBuffer where
  /-- The longest payload that is accepted. -/
  limit : Nat
  /-- What has arrived and was not handed out, oldest byte first. -/
  bytes : Bytes
deriving DecidableEq, Repr

namespace FrameBuffer

/-- A buffer at the start of a stream. -/
def empty (limit : Nat) : FrameBuffer := ⟨limit, []⟩

/-- How many bytes wait. -/
def buffered (buffer : FrameBuffer) : Nat := buffer.bytes.length

/-- Append bytes that were read from the stream. -/
def extend (buffer : FrameBuffer) (chunk : Bytes) : FrameBuffer :=
  { buffer with bytes := buffer.bytes ++ chunk }

@[simp] theorem limit_extend (buffer : FrameBuffer) (chunk : Bytes) :
    (buffer.extend chunk).limit = buffer.limit := rfl

@[simp] theorem bytes_extend (buffer : FrameBuffer) (chunk : Bytes) :
    (buffer.extend chunk).bytes = buffer.bytes ++ chunk := rfl

@[simp] theorem buffered_extend (buffer : FrameBuffer) (chunk : Bytes) :
    (buffer.extend chunk).buffered = buffer.buffered + chunk.length := List.length_append

@[simp] theorem extend_nil (buffer : FrameBuffer) : buffer.extend [] = buffer := by
  simp [extend]

/-- Chunks that arrive one after the other are one. -/
@[simp] theorem extend_extend (buffer : FrameBuffer) (chunk more : Bytes) :
    (buffer.extend chunk).extend more = buffer.extend (chunk ++ more) := by
  simp [extend]

/-- Take the next payload off the front, if all of it has arrived. -/
def next (buffer : FrameBuffer) : Except Frame.Fault (Option (Bytes × FrameBuffer)) :=
  match buffer.bytes with
  | a :: b :: c :: d :: rest =>
    let length := Frame.lengthOf a b c d
    if buffer.limit < length then .error (.tooLarge length buffer.limit)
    else if rest.length < length then .ok none
    else .ok (some (rest.take length, { buffer with bytes := rest.drop length }))
  | _ => .ok none

/-- Handing out a payload shortens the buffer. -/
theorem buffered_lt_of_next {buffer after : FrameBuffer} {payload : Bytes}
    (h : buffer.next = .ok (some (payload, after))) : after.buffered < buffer.buffered := by
  unfold next at h
  split at h
  · rename_i a b c d rest hbytes
    dsimp only at h
    split at h
    · cases h
    · split at h
      · cases h
      · simp only [Except.ok.injEq, Option.some.injEq, Prod.mk.injEq] at h
        obtain ⟨-, rfl⟩ := h
        simp only [buffered, hbytes, List.length_drop, List.length_cons]
        omega
  · cases h

/-- Take every complete payload, in stream order, and the fault that stopped this, if one did. -/
def drain (buffer : FrameBuffer) : List Bytes × Option Frame.Fault × FrameBuffer :=
  match _taken : buffer.next with
  | .error fault => ([], some fault, buffer)
  | .ok none => ([], none, buffer)
  | .ok (some (payload, after)) =>
    let (payloads, fault, last) := after.drain
    (payload :: payloads, fault, last)
termination_by buffer.buffered
decreasing_by exact buffered_lt_of_next _taken

/--
Append a chunk and take every complete payload. A refused length behind complete payloads is
not reported yet: it stays in front of the buffer, where the next call meets it first.
-/
def feed (buffer : FrameBuffer) (chunk : Bytes) : Except Frame.Fault (List Bytes) × FrameBuffer :=
  match (buffer.extend chunk).drain with
  | ([], some fault, after) => (.error fault, after)
  | (payloads, _, after) => (.ok payloads, after)

/-- The verdict at the end of the stream: bytes that are left belong to a torn frame. -/
def finish (buffer : FrameBuffer) : Except Frame.Fault Unit :=
  if buffer.bytes.isEmpty then .ok () else .error (.incomplete buffer.buffered)

end FrameBuffer

end Courier
