import ClusterChat.Frame

/-
  Password hashing and comparison, translated from
  `crypto.cpp`.  SHA-256 itself is a parameter.

  Main declarations:
    * `crypto.hashPassword` and `crypto.hashPassword_inj`
    * `crypto.safeEqual` and `crypto.safeEqual_iff`
-/

------------------------------------------------------------
-- Passwords
------------------------------------------------------------

namespace ClusterChat

namespace crypto

/- The ASCII code of a hexadecimal digit. -/
def hexDigit (value : Nat) : UInt8 :=
  if value < 10 then
    UInt8.ofNat (48 + value)
  else
    UInt8.ofNat (87 + value)

/- The two digits of a byte, the high one first. -/
def hexByte (byte : UInt8) : Bytes :=
  [hexDigit (byte.toNat / 16), hexDigit (byte.toNat % 16)]

/- `hashPassword` -/
def hashPassword
    (sha256 : Bytes → Bytes)
    (salt pwd : Bytes) : Bytes :=
  (sha256 (salt ++ pwd)).flatMap hexByte

/- The loop of `safeEqual`: the collected differences. -/
def difference (a b : Bytes) : UInt8 :=
  (a.zip b).foldl
    (fun diff pair => diff ||| (pair.1 ^^^ pair.2)) 0

/- `safeEqual` -/
def safeEqual (a b : Bytes) : Bool :=
  if a.length ≠ b.length then
    false
  else
    decide (difference a b = 0)

------------------------------------------------------------
-- The Rendering of a Digest
------------------------------------------------------------

/- Different values have different digits. -/
theorem hexDigit_inj
    {a b : Nat}
    (hA : a < 16)
    (hB : b < 16)
    (hSame : hexDigit a = hexDigit b) :
    a = b := by
  have hDigits :
      ∀ x y : Fin 16, hexDigit x = hexDigit y → x = y := by
    decide
  exact congrArg Fin.val (hDigits ⟨a, hA⟩ ⟨b, hB⟩ hSame)

/- A byte is put together from its two digits. -/
theorem hexByte_inj
    {a b : UInt8}
    (hSame : hexByte a = hexByte b) :
    a = b := by
  have hRange (byte : UInt8) :
      byte.toNat / 16 < 16 ∧ byte.toNat % 16 < 16 := by
    have hByte := byte.toNat_lt
    omega
  rcases List.cons.inj hSame with ⟨hHigh, hRest⟩
  rcases List.cons.inj hRest with ⟨hLow, _⟩
  have hHighs := hexDigit_inj (hRange a).1 (hRange b).1 hHigh
  have hLows := hexDigit_inj (hRange a).2 (hRange b).2 hLow
  apply UInt8.toNat_inj.mp
  omega

/- Every byte takes two digits, so the digits of a digest can
be told apart. -/
theorem hexText_inj
    {a b : Bytes}
    (hSame : a.flatMap hexByte = b.flatMap hexByte) :
    a = b := by
  induction a generalizing b with
  | nil =>
      cases b with
      | nil => rfl
      | cons byte rest => cases hSame
  | cons first others ih =>
      cases b with
      | nil => cases hSame
      | cons byte rest =>
          rw [List.flatMap_cons, List.flatMap_cons] at hSame
          rcases List.append_inj hSame rfl with
            ⟨hFirst, hOthers⟩
          rw [hexByte_inj hFirst, ih hOthers]

/- Hashes are equal exactly if the digests are. -/
theorem hashPassword_inj
    (sha256 : Bytes → Bytes)
    (salt p q : Bytes) :
    hashPassword sha256 salt p = hashPassword sha256 salt q ↔
      sha256 (salt ++ p) = sha256 (salt ++ q) := by
  constructor
  · exact hexText_inj
  · exact congrArg (List.flatMap hexByte)

------------------------------------------------------------
-- The Comparison
------------------------------------------------------------

/- A difference that was collected is never lost. -/
theorem foldl_difference_eq_zero
    (pairs : List (UInt8 × UInt8))
    (diff : UInt8) :
    pairs.foldl
          (fun diff pair => diff ||| (pair.1 ^^^ pair.2))
          diff =
        0 ↔
      diff = 0 ∧ ∀ pair ∈ pairs, pair.1 = pair.2 := by
  induction pairs generalizing diff with
  | nil => simp
  | cons pair pairs ih =>
      rw [List.foldl_cons, ih, UInt8.or_eq_zero_iff,
        UInt8.xor_eq_zero_iff, List.forall_mem_cons,
        and_assoc]

/- Strings of one length are equal exactly if their bytes
are. -/
theorem forall_zip_iff
    {a b : Bytes}
    (hLength : a.length = b.length) :
    (∀ pair ∈ a.zip b, pair.1 = pair.2) ↔ a = b := by
  induction a generalizing b with
  | nil =>
      have hEmpty := List.length_eq_zero_iff.mp hLength.symm
      simp [hEmpty]
  | cons first others ih =>
      cases b with
      | nil => cases hLength
      | cons byte rest =>
          rw [List.zip_cons_cons, List.forall_mem_cons,
            ih (Nat.succ.inj hLength), List.cons.injEq]

/- `safeEqual` is equality. -/
theorem safeEqual_iff (a b : Bytes) :
    safeEqual a b = true ↔ a = b := by
  unfold safeEqual difference
  by_cases hLength : a.length = b.length
  · rw [if_neg (not_not.mpr hLength), decide_eq_true_eq,
      foldl_difference_eq_zero, forall_zip_iff hLength]
    exact and_iff_right rfl
  · rw [if_pos hLength]
    exact iff_of_false nofun (mt (congrArg List.length) hLength)

end crypto

end ClusterChat
