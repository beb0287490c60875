import Mathlib.Data.List.Basic

/-
  Streams of frames with a length in front of each body.

  `front` tells what a buffer starts with, and `parse` takes
  complete frames off a buffer as long as it starts with one.
  What `parse` takes does not depend on where the stream is
  cut into pieces.

  Main declarations:
    * `LengthPrefixed` and `LengthPrefixed.frame`
    * `LengthPrefixed.front`
    * `LengthPrefixed.parse`
    * `LengthPrefixed.parse_append`
    * `LengthPrefixed.parse_frames`
    * `LengthPrefixed.parse_sound`
-/

------------------------------------------------------------
-- Formats
------------------------------------------------------------

/- A header of fixed width for the length of a body, which
must not be zero or above the limit. -/
structure LengthPrefixed (α : Type) where
  width : Nat
  limit : Nat
  encode : Nat → List α
  decode : List α → Nat
  width_pos : 0 < width
  length_encode : ∀ n, (encode n).length = width
  decode_encode : ∀ n, n ≤ limit → decode (encode n) = n
  encode_decode :
    ∀ header,
      header.length = width → encode (decode header) = header

namespace LengthPrefixed

variable {α : Type} (format : LengthPrefixed α)

/- The length may stand in front of a body. -/
def Legal (n : Nat) : Prop :=
  n ≠ 0 ∧ n ≤ format.limit

instance (n : Nat) : Decidable (format.Legal n) :=
  inferInstanceAs (Decidable (_ ∧ _))

/- A body behind its header. -/
def frame (body : List α) : List α :=
  format.encode body.length ++ body

/- What a buffer starts with. -/
inductive Front (α : Type) where
| incomplete
| illegal
| complete (body rest : List α)

/- The buffer starts with a header that is not legal. -/
def Front.isIllegal : Front α → Bool
| .incomplete => false
| .illegal => true
| .complete _ _ => false

/- Look at the header first, then at the body. -/
def front (buffer : List α) : Front α :=
  if buffer.length < format.width then
    .incomplete
  else
    let n := format.decode (buffer.take format.width)
    if ¬ format.Legal n then
      .illegal
    else if buffer.length < format.width + n then
      .incomplete
    else
      .complete ((buffer.drop format.width).take n)
        (buffer.drop (format.width + n))

variable {format}

theorem length_frame (body : List α) :
    (format.frame body).length =
      format.width + body.length := by
  unfold frame
  rw [List.length_append, format.length_encode]

/- More bytes do not change a complete front. -/
theorem front_append_of_complete
    {buffer body rest : List α}
    (hFront : format.front buffer = .complete body rest)
    (more : List α) :
    format.front (buffer ++ more) =
      .complete body (rest ++ more) := by
  unfold front at hFront ⊢
  dsimp only at hFront
  split_ifs at hFront with hHeader hLegal hBody
  rw [List.length_append,
    List.take_append_of_le_length (by omega),
    if_neg (by omega)]
  dsimp only
  rw [if_neg (not_not.mpr hLegal), if_neg (by omega),
    List.drop_append_of_le_length (by omega),
    List.take_append_of_le_length
      (by rw [List.length_drop]; omega),
    List.drop_append_of_le_length (by omega)]
  rcases Front.complete.inj hFront with ⟨hTake, hDrop⟩
  rw [hTake, hDrop]

/- More bytes do not repair an illegal header. -/
theorem front_append_of_illegal
    {buffer : List α}
    (hFront : format.front buffer = .illegal)
    (more : List α) :
    format.front (buffer ++ more) = .illegal := by
  unfold front at hFront ⊢
  dsimp only at hFront
  split_ifs at hFront with hHeader hLegal
  rw [List.length_append,
    List.take_append_of_le_length (by omega),
    if_neg (by omega)]
  dsimp only
  rw [if_pos hLegal]

/- A complete front is cut off together with its header. -/
theorem length_rest_lt
    {buffer body rest : List α}
    (hFront : format.front buffer = .complete body rest) :
    rest.length < buffer.length := by
  unfold front at hFront
  dsimp only at hFront
  split_ifs at hFront with hHeader hLegal hBody
  rcases Front.complete.inj hFront with ⟨_, hDrop⟩
  have hWidth := format.width_pos
  rw [← hDrop, List.length_drop]
  omega

theorem front_nil :
    format.front ([] : List α) = .incomplete := by
  have hWidth := format.width_pos
  unfold front
  rw [if_pos (by simpa using hWidth)]

/- Only a frame is taken off. -/
theorem frame_of_complete
    {buffer body rest : List α}
    (hFront : format.front buffer = .complete body rest) :
    buffer = format.frame body ++ rest := by
  unfold front at hFront
  dsimp only at hFront
  split_ifs at hFront with hHeader hLegal hBody
  rcases Front.complete.inj hFront with ⟨hTake, hDrop⟩
  have hLength :
      body.length =
        format.decode (buffer.take format.width) := by
    rw [← hTake, List.length_take, List.length_drop]
    omega
  have hEncode :
      format.encode body.length =
        buffer.take format.width := by
    rw [hLength]
    apply format.encode_decode
    rw [List.length_take]
    omega
  have hRest :
      rest =
        (buffer.drop format.width).drop
          (format.decode (buffer.take format.width)) := by
    rw [← hDrop, List.drop_drop]
  unfold frame
  rw [hEncode, hRest, ← hTake, List.append_assoc,
    List.take_append_drop, List.take_append_drop]

/- Only a body of legal length is taken off. -/
theorem legal_of_complete
    {buffer body rest : List α}
    (hFront : format.front buffer = .complete body rest) :
    format.Legal body.length := by
  unfold front at hFront
  dsimp only at hFront
  split_ifs at hFront with hHeader hLegal hBody
  rcases Front.complete.inj hFront with ⟨hTake, _⟩
  have hLength :
      body.length =
        format.decode (buffer.take format.width) := by
    rw [← hTake, List.length_take, List.length_drop]
    omega
  rw [hLength]
  exact hLegal

/- A frame is taken off as its body. -/
theorem front_frame
    {body : List α}
    (hLegal : format.Legal body.length)
    (rest : List α) :
    format.front (format.frame body ++ rest) =
      .complete body rest := by
  have hEncode := format.length_encode body.length
  have hHeader :
      (format.frame body ++ rest).take format.width =
        format.encode body.length := by
    unfold frame
    rw [List.append_assoc, List.take_append_of_le_length
      (by omega), List.take_of_length_le (by omega)]
  have hDecode := format.decode_encode _ hLegal.2
  unfold front
  rw [List.length_append, length_frame, hHeader, hDecode,
    if_neg (by omega)]
  dsimp only
  rw [if_neg (not_not.mpr hLegal), if_neg (by omega)]
  unfold frame
  rw [List.append_assoc,
    List.drop_append_of_le_length (by omega),
    List.drop_of_length_le (by omega), List.nil_append,
    List.take_append_of_le_length (by omega),
    List.take_length, ← List.append_assoc,
    List.drop_append_of_le_length
      (by rw [List.length_append]; omega),
    List.drop_of_length_le
      (by rw [List.length_append]; omega),
    List.nil_append]

/- A frame that is cut off is incomplete. -/
theorem front_take_frame
    {body : List α}
    (hLegal : format.Legal body.length)
    {cut : Nat}
    (hCut : cut < (format.frame body).length) :
    format.front ((format.frame body).take cut) =
      .incomplete := by
  have hLength :
      ((format.frame body).take cut).length = cut := by
    rw [List.length_take]
    omega
  have hEncode := format.length_encode body.length
  unfold front
  rw [hLength]
  by_cases hHeader : cut < format.width
  · rw [if_pos hHeader]
  · have hTake :
        ((format.frame body).take cut).take format.width =
          format.encode body.length := by
      rw [List.take_take, Nat.min_eq_left (by omega)]
      unfold frame
      rw [List.take_append_of_le_length (by omega),
        List.take_of_length_le (by omega)]
    have hDecode := format.decode_encode _ hLegal.2
    rw [length_frame] at hCut
    rw [if_neg hHeader, hTake, hDecode]
    dsimp only
    rw [if_neg (not_not.mpr hLegal), if_pos hCut]

------------------------------------------------------------
-- Whole Streams
------------------------------------------------------------

/- Take complete frames off the buffer, and keep the rest. -/
def parse
    (format : LengthPrefixed α)
    (buffer : List α) : List (List α) × List α :=
  match _hFront : format.front buffer with
  | .complete body rest =>
      let parsed := parse format rest
      (body :: parsed.1, parsed.2)
  | .incomplete => ([], buffer)
  | .illegal => ([], buffer)
termination_by buffer.length
decreasing_by exact length_rest_lt (by assumption)

/- The buffer starts with no complete frame. -/
def Drained
    (format : LengthPrefixed α)
    (buffer : List α) : Prop :=
  ∀ body rest, format.front buffer ≠ .complete body rest

theorem parse_of_complete
    {buffer body rest : List α}
    (hFront : format.front buffer = .complete body rest) :
    format.parse buffer =
      (body :: (format.parse rest).1,
        (format.parse rest).2) := by
  rw [parse]
  split
  · rename_i other left hOther
    rw [hFront] at hOther
    cases hOther
    rfl
  · rename_i hOther
    rw [hFront] at hOther
    cases hOther
  · rename_i hOther
    rw [hFront] at hOther
    cases hOther

theorem parse_of_drained
    {buffer : List α}
    (hDrained : format.Drained buffer) :
    format.parse buffer = ([], buffer) := by
  rw [parse]
  split
  · rename_i body rest hFront
    exact absurd hFront (hDrained body rest)
  · rfl
  · rfl

theorem drained_of_incomplete
    {buffer : List α}
    (hFront : format.front buffer = .incomplete) :
    format.Drained buffer := by
  intro body rest hComplete
  rw [hFront] at hComplete
  cases hComplete

theorem drained_of_illegal
    {buffer : List α}
    (hFront : format.front buffer = .illegal) :
    format.Drained buffer := by
  intro body rest hComplete
  rw [hFront] at hComplete
  cases hComplete

theorem drained_nil : format.Drained ([] : List α) :=
  drained_of_incomplete front_nil

/- Nothing more can be taken off what `parse` keeps. -/
theorem drained_rest (buffer : List α) :
    format.Drained (format.parse buffer).2 := by
  fun_induction format.parse buffer with
  | case1 buffer body rest hFront parsed ih => exact ih
  | case2 buffer hFront => exact drained_of_incomplete hFront
  | case3 buffer hFront => exact drained_of_illegal hFront

/- Parsing may stop after a piece and go on with the rest. -/
theorem parse_append
    (buffer more : List α) :
    format.parse (buffer ++ more) =
      ((format.parse buffer).1 ++
          (format.parse
            ((format.parse buffer).2 ++ more)).1,
        (format.parse
          ((format.parse buffer).2 ++ more)).2) := by
  fun_induction format.parse buffer with
  | case1 buffer body rest hFront parsed ih =>
      rw [parse_of_complete
        (front_append_of_complete hFront more), ih]
      rfl
  | case2 buffer hFront => rfl
  | case3 buffer hFront => rfl

/- Behind an illegal header nothing is taken off. -/
theorem parse_append_of_illegal
    {buffer : List α}
    (hFront : format.front buffer = .illegal)
    (more : List α) :
    format.parse (buffer ++ more) = ([], buffer ++ more) :=
  parse_of_drained
    (drained_of_illegal
      (front_append_of_illegal hFront more))

/- Frames are taken off one by one. -/
theorem parse_frames
    {bodies : List (List α)}
    (hLegal : ∀ body ∈ bodies, format.Legal body.length)
    (rest : List α) :
    format.parse
        ((bodies.map format.frame).flatten ++ rest) =
      (bodies ++ (format.parse rest).1,
        (format.parse rest).2) := by
  induction bodies with
  | nil => rfl
  | cons body bodies ih =>
      have hRest :=
        ih (fun other hOther =>
          hLegal other (List.mem_cons_of_mem _ hOther))
      rw [List.map_cons, List.flatten_cons,
        List.append_assoc,
        parse_of_complete
          (front_frame (hLegal body List.mem_cons_self) _),
        hRest]
      rfl

theorem legal_of_mem_parse
    {buffer body : List α}
    (hBody : body ∈ (format.parse buffer).1) :
    format.Legal body.length := by
  fun_induction format.parse buffer with
  | case1 buffer first rest hFront parsed ih =>
      rcases List.mem_cons.mp hBody with hFirst | hLater
      · rw [hFirst]
        exact legal_of_complete hFront
      · exact ih hLater
  | case2 buffer hFront => cases hBody
  | case3 buffer hFront => cases hBody

/- The stream is made of the frames that are taken off and
of what is kept. -/
theorem parse_sound (buffer : List α) :
    buffer =
      ((format.parse buffer).1.map format.frame).flatten ++
        (format.parse buffer).2 := by
  fun_induction format.parse buffer with
  | case1 buffer body rest hFront parsed ih =>
      rw [List.map_cons, List.flatten_cons,
        List.append_assoc, ← ih]
      exact frame_of_complete hFront
  | case2 buffer hFront => rfl
  | case3 buffer hFront => rfl

end LengthPrefixed
