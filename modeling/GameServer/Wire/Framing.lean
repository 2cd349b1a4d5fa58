/-
# Wire.Framing -- the frames the two senders write, and reading them back

`DBMiddlewareClient::send_framed` copies a length and a body into one string;
`Session::do_write_queue` hands the same two parts to a gathering write.  Either
way the peer sees four big-endian bytes of length and then the payload.

* `drain_frames` -- a buffer holding whole frames drains to their payloads;
* `receive_frames` -- and so does any cut of it into chunks: nothing lost,
  merged, split or delivered twice, no resync, an empty buffer at the end.
-/
import GameServer.Wire.MessageBuffer

namespace GameServer.Wire

set_option autoImplicit false

open Theory.Incremental
open MessageBufferManager (readLenAt ntohl Plausible attempt attempt_front attempt_lawful)

/-- `htonl(static_cast<uint32_t>(size))`, in memory order. -/
def lengthPrefix (size : Nat) : Bytes :=
  let len := size % 2 ^ 32
  [UInt8.ofNat (len / 2 ^ 24), UInt8.ofNat (len / 2 ^ 16), UInt8.ofNat (len / 2 ^ 8),
    UInt8.ofNat len]

/-- The frame string of `send_framed`. -/
def sendFramed (body : Bytes) : Bytes := lengthPrefix body.length ++ body

/-- The buffer sequence of `do_write_queue`, as it is when the write begins.  The prefix is
a local array there; that its four bytes are still the same when they are written is
assumed here. -/
def doWriteQueue (msg : Bytes) : List Bytes := [lengthPrefix msg.length, msg]

inductive Sender where
  | middlewareClient
  | session
deriving DecidableEq, Repr

/-- What one payload puts on the stream. -/
def Sender.frame : Sender → Bytes → Bytes
  | .middlewareClient, body => sendFramed body
  | .session, msg => (doWriteQueue msg).flatten

theorem Sender.frame_eq (sender : Sender) (payload : Bytes) :
    sender.frame payload = lengthPrefix payload.length ++ payload := by
  cases sender <;> simp [Sender.frame, sendFramed, doWriteQueue]

@[simp] theorem lengthPrefix_length (size : Nat) : (lengthPrefix size).length = 4 := rfl

theorem ntohl_lengthPrefix (size : Nat) : ntohl (lengthPrefix size) = size % 2 ^ 32 := by
  simp only [lengthPrefix, ntohl, UInt8.toNat_ofNat']
  omega

theorem readLenAt_frame {payload : Bytes} (fits : payload.length < 2 ^ 32) (rest : Bytes) :
    readLenAt (lengthPrefix payload.length ++ rest) 0 = payload.length := by
  rw [readLenAt, List.drop_zero, List.take_left' (lengthPrefix_length _), ntohl_lengthPrefix,
    Nat.mod_eq_of_lt fits]

/-- A frame of an admissible payload at the front is taken whole. -/
theorem attempt_frame {payload : Bytes} (size : Plausible payload.length) (sender : Sender)
    (rest : Bytes) : attempt (sender.frame payload ++ rest) = .deliver payload rest := by
  obtain ⟨lower, upper⟩ := size
  have len : readLenAt (sender.frame payload ++ rest) 0 = payload.length := by
    rw [sender.frame_eq, List.append_assoc]
    exact readLenAt_frame (by simp only [maxPacketSize] at upper; omega) _
  have front : sender.frame payload ++ rest =
      lengthPrefix payload.length ++ (payload ++ rest) := by
    rw [sender.frame_eq, List.append_assoc]
  rw [attempt_front (by simp [sender.frame_eq]) (by rw [len]; exact ⟨lower, upper⟩), len,
    if_pos (by simp [sender.frame_eq]), front]
  have body : (lengthPrefix payload.length ++ (payload ++ rest)).drop 4 = payload ++ rest :=
    List.drop_left' (lengthPrefix_length _)
  rw [← List.drop_drop, body, List.take_left' rfl, List.drop_left' rfl]

/-- **Whole frames drain to their payloads**, with nothing kept and nothing refused. -/
theorem drain_frames (sender : Sender) (payloads : List Bytes)
    (sizes : ∀ p ∈ payloads, Plausible p.length) :
    drain attempt (payloads.map sender.frame).flatten = (payloads, some []) := by
  induction payloads with
  | nil => exact drain_wait attempt_lawful.nil
  | cons payload payloads ih =>
      obtain ⟨size, sizes⟩ := List.forall_mem_cons.mp sizes
      rw [List.map_cons, List.flatten_cons,
        drain_deliver attempt_lawful (attempt_frame size sender _), ih sizes]

/-- **Framing round trip.**  However the frames of admissible payloads are cut
into chunks, the receive loop delivers exactly the payloads, never raises the
invalid-length flag and ends with an empty buffer. -/
theorem receive_frames (sender : Sender) (payloads chunks : List Bytes)
    (sizes : ∀ p ∈ payloads, 1 ≤ p.length ∧ p.length ≤ 262144)
    (cut : chunks.flatten = (payloads.map sender.frame).flatten) :
    receive {} chunks =
      { messages := payloads,
        manager := { buffer := [], lastClearByInvalidLength := false },
        stopped := false } := by
  obtain ⟨same, unflagged⟩ := receive_eq_feed {} chunks rfl
  rw [feed_eq_drain attempt_lawful attempt_lawful.nil, List.nil_append, cut,
    drain_frames sender payloads sizes] at same
  obtain ⟨messages, rest⟩ := Prod.mk.inj same
  cases stopped : (receive {} chunks).stopped with
  | true => simp [stopped] at rest
  | false =>
      have buffer : (receive {} chunks).manager.buffer = [] := by simpa [stopped] using rest
      rcases outcome : receive {} chunks with ⟨ms, ⟨b, f⟩, s⟩
      simp_all

/-- Two payloads, the second cut inside its prefix and its body. -/
theorem receive_frames_hi_a :
    receive {} [[0, 0, 0, 2, 104, 105, 0], [0, 0], [1], [97]] =
      { messages := [[104, 105], [97]],
        manager := { buffer := [], lastClearByInvalidLength := false },
        stopped := false } :=
  receive_frames .session [[104, 105], [97]] _ (by decide) (by decide)

end GameServer.Wire
