import ClusterChat.Library.LengthPrefixed
import Mathlib

/-
  The frames between client and server: four bytes with the
  length of the body in network order, and the body.

  Key definitions include:
    * `htonl` and `ntohl`, as the bytes in memory
    * `frameFormat`
-/

------------------------------------------------------------
-- Bytes and Headers
------------------------------------------------------------

namespace ClusterChat

/- The bytes of a C++ string. -/
abbrev Bytes := List UInt8

/- The UTF-8 bytes of a text. -/
def utf8 (text : String) : Bytes :=
  text.toUTF8.data.toList

def kHeaderLen : Nat := 4

def kMaxFrameLen : Nat := 64 * 1024

/- The bytes of `htonl` on a size cast to 32 bits. -/
def htonl (size : Nat) : Bytes :=
  [UInt8.ofNat (size / 2 ^ 24), UInt8.ofNat (size / 2 ^ 16),
    UInt8.ofNat (size / 2 ^ 8), UInt8.ofNat size]

/- The number that `ntohl` makes of the first four bytes. -/
def ntohl : Bytes → Nat
| first :: second :: third :: fourth :: _ =>
    first.toNat * 2 ^ 24 + second.toNat * 2 ^ 16 +
      third.toNat * 2 ^ 8 + fourth.toNat
| _ => 0

theorem ntohl_htonl (size : Nat) :
    ntohl (htonl size) = size % 2 ^ 32 := by
  unfold ntohl htonl
  dsimp only
  rw [UInt8.toNat_ofNat', UInt8.toNat_ofNat',
    UInt8.toNat_ofNat', UInt8.toNat_ofNat']
  omega

theorem htonl_ntohl
    {header : Bytes}
    (hLength : header.length = kHeaderLen) :
    htonl (ntohl header) = header := by
  match header, hLength with
  | [first, second, third, fourth], _ =>
      have hFirst := first.toNat_lt
      have hSecond := second.toNat_lt
      have hThird := third.toNat_lt
      have hFourth := fourth.toNat_lt
      unfold ntohl htonl
      dsimp only
      simp only [List.cons.injEq, and_true,
        ← UInt8.toNat_inj, UInt8.toNat_ofNat']
      omega

/- The format that both sides use. -/
def frameFormat : LengthPrefixed UInt8 where
  width := kHeaderLen
  limit := kMaxFrameLen
  encode := htonl
  decode := ntohl
  width_pos := by decide
  length_encode := fun _ => rfl
  decode_encode := by
    intro n hLimit
    unfold kMaxFrameLen at hLimit
    rw [ntohl_htonl]
    omega
  encode_decode := fun _ => htonl_ntohl

theorem legal_iff (n : Nat) :
    frameFormat.Legal n ↔ 1 ≤ n ∧ n ≤ kMaxFrameLen := by
  unfold LengthPrefixed.Legal
  rw [Nat.one_le_iff_ne_zero]
  rfl

/- The test of the receivers is that for a legal length. -/
theorem not_legal_iff (n : Nat) :
    ¬ frameFormat.Legal n ↔ n = 0 ∨ kMaxFrameLen < n := by
  rw [legal_iff]
  omega

/- What a buffer starts with, as the receivers test it. -/
theorem front_frameFormat (buffer : Bytes) :
    frameFormat.front buffer =
      if buffer.length < kHeaderLen then
        .incomplete
      else
        let bodyLen := ntohl (buffer.take kHeaderLen)
        if bodyLen = 0 ∨ kMaxFrameLen < bodyLen then
          .illegal
        else if buffer.length < kHeaderLen + bodyLen then
          .incomplete
        else
          .complete
            ((buffer.drop kHeaderLen).take bodyLen)
            (buffer.drop (kHeaderLen + bodyLen)) := by
  unfold LengthPrefixed.front
  simp only [not_legal_iff]
  rfl

/- The buffer starts with an illegal header. -/
def stopped (buffer : Bytes) : Bool :=
  (frameFormat.front buffer).isIllegal

theorem stopped_iff (buffer : Bytes) :
    stopped buffer = true ↔
      kHeaderLen ≤ buffer.length ∧
        (ntohl (buffer.take kHeaderLen) = 0 ∨
          kMaxFrameLen < ntohl (buffer.take kHeaderLen)) := by
  unfold stopped
  rw [front_frameFormat]
  dsimp only
  split_ifs with hHeader hIllegal hBody
  · exact iff_of_false Bool.false_ne_true (by omega)
  · exact iff_of_true rfl ⟨by omega, hIllegal⟩
  · exact iff_of_false Bool.false_ne_true (by omega)
  · exact iff_of_false Bool.false_ne_true (by omega)

theorem illegal_of_stopped
    {buffer : Bytes}
    (hStopped : stopped buffer = true) :
    frameFormat.front buffer = .illegal := by
  unfold stopped at hStopped
  cases hFront : frameFormat.front buffer with
  | incomplete =>
      rw [hFront] at hStopped
      cases hStopped
  | illegal => rfl
  | complete body rest =>
      rw [hFront] at hStopped
      cases hStopped

end ClusterChat
