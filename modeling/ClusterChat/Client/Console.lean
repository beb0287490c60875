import ClusterChat.Client.MainMenu
import ClusterChat.Client.Session

/-
  The start menu on the standard input, translated from `main`
  in `main.cpp` of the client.

  Formatted input skips white space first, also line breaks.
  A stream that is not good fails, and a string that is not
  read stays empty.

  Main declarations:
    * `IStream.readInt`, `IStream.readWord`, and
      `IStream.ignoreLine`
    * `Client.Choice` and `Client.choose`
    * `Client.choose_login`
    * `Client.choose_exhausted`
-/

------------------------------------------------------------
-- Formatted Input
------------------------------------------------------------

namespace ClusterChat

namespace Client

namespace IStream

def good (cin : IStream) : Bool :=
  !cin.failbit && !cin.eofbit

/- `clear` -/
def clear (cin : IStream) : IStream where
  input := cin.input

/- The sentry of formatted input: it skips white space, and
the end of the input behind it is a failure. -/
def skipWhite (cin : IStream) : IStream :=
  if cin.good then
    let input := cin.input.dropWhile isSpace
    { input := input
      failbit := input.isEmpty
      eofbit := input.isEmpty }
  else
    { cin with failbit := true }

/- `cin >> choice`, with the value unless it fails.  The
digits of a number that is not an `int` are taken, too. -/
def readInt (cin : IStream) : Option Int × IStream :=
  let cin := cin.skipWhite
  if cin.failbit then
    (none, cin)
  else
    let value := stoi cin.input
    let rest := (takeSign cin.input).2.dropWhile isDigit
    (value,
      { input := rest
        failbit := value.isNone
        eofbit := rest.isEmpty })

/- `cin >> name`, into an empty string. -/
def readWord (cin : IStream) : Bytes × IStream :=
  let cin := cin.skipWhite
  if cin.failbit then
    ([], cin)
  else
    let rest := cin.input.dropWhile fun byte => !isSpace byte
    (cin.input.takeWhile fun byte => !isSpace byte,
      { input := rest
        eofbit := rest.isEmpty })

/- `ignore` up to the next line break. -/
def ignoreLine (cin : IStream) : IStream :=
  if cin.good then
    match cin.input.dropWhile fun byte => byte ≠ newline with
    | [] => { input := [], eofbit := true }
    | _ :: rest => { input := rest }
  else
    { cin with failbit := true }

end IStream

------------------------------------------------------------
-- The Start Menu
------------------------------------------------------------

/- What one turn of the start menu is about. -/
inductive Choice where
| login (name password : Bytes)
| register (name password : Bytes)
| quit
| invalid
deriving DecidableEq, Repr

/- A name and a password. -/
def readCredentials
    (cin : IStream) : (Bytes × Bytes) × IStream :=
  let (name, cin) := cin.readWord
  let (password, cin) := cin.readWord
  ((name, password), cin)

/- One turn of the loop in `main`, up to the frame that it
sends.  What is not a number is dropped with its line. -/
def choose (cin : IStream) : Choice × IStream :=
  let (choice, cin) := cin.readInt
  if cin.failbit then
    (.invalid, cin.clear.ignoreLine)
  else
    let cin := cin.ignoreLine
    if choice = some 1 then
      let ((name, password), cin) := readCredentials cin
      (.login name password, cin)
    else if choice = some 2 then
      let ((name, password), cin) := readCredentials cin
      (.register name password, cin)
    else if choice = some 3 then
      (.quit, cin)
    else
      (.invalid, cin)

------------------------------------------------------------
-- Typed Lines
------------------------------------------------------------

/- A text that `>>` reads as a whole. -/
structure Word where
  bytes : Bytes
  nonempty : bytes ≠ []
  black : ∀ byte ∈ bytes, isSpace byte = false

theorem isSpace_newline : isSpace newline = true := rfl

namespace IStream

/- A word is read up to the white space behind it. -/
theorem readWord_word
    (word : Word)
    {space : UInt8}
    (hSpace : isSpace space = true)
    (blanks rest : Bytes)
    (hBlanks : ∀ byte ∈ blanks, isSpace byte = true) :
    readWord
        { input := blanks ++ word.bytes ++ space :: rest } =
      (word.bytes, { input := space :: rest }) := by
  have hNoSpace :
      ∀ byte ∈ word.bytes, (!isSpace byte) = true := by
    intro byte hByte
    rw [word.black byte hByte]
    rfl
  have hSkip :
      (blanks ++ word.bytes ++ space :: rest).dropWhile
          isSpace =
        word.bytes ++ space :: rest := by
    rw [List.append_assoc, List.dropWhile_append_of_pos hBlanks]
    cases hWord : word.bytes with
    | nil => exact absurd hWord word.nonempty
    | cons byte others =>
        have hByte : isSpace byte = false := by
          apply word.black
          rw [hWord]
          exact List.mem_cons_self
        rw [List.cons_append, List.dropWhile_cons, hByte]
        rfl
  have hSome : (word.bytes ++ space :: rest).isEmpty = false := by
    cases word.bytes <;> rfl
  have hStop : (!isSpace space) = false := by
    rw [hSpace]
    rfl
  have hTake :
      (word.bytes ++ space :: rest).takeWhile
          (fun byte => !isSpace byte) =
        word.bytes := by
    rw [List.takeWhile_append_of_pos hNoSpace,
      List.takeWhile_cons, hStop]
    simp
  have hDrop :
      (word.bytes ++ space :: rest).dropWhile
          (fun byte => !isSpace byte) =
        space :: rest := by
    rw [List.dropWhile_append_of_pos hNoSpace,
      List.dropWhile_cons, hStop]
    simp
  have hWhite :
      skipWhite
          { input := blanks ++ word.bytes ++ space :: rest } =
        { input := word.bytes ++ space :: rest } := by
    unfold skipWhite good
    simp only [Bool.not_false, Bool.and_self, if_true]
    rw [hSkip, hSome]
  unfold readWord
  rw [hWhite]
  dsimp only
  rw [hTake, hDrop]
  rfl

end IStream

/- The lines of a name and of a password. -/
def credentialLines
    (name password : Word)
    (rest : Bytes) : Bytes :=
  name.bytes ++
    newline :: (password.bytes ++ newline :: rest)

theorem readCredentials_lines
    (name password : Word)
    (rest : Bytes) :
    readCredentials
        { input := credentialLines name password rest } =
      ((name.bytes, password.bytes),
        { input := newline :: rest }) := by
  have hName :=
    IStream.readWord_word name isSpace_newline []
      (password.bytes ++ newline :: rest)
      (List.forall_mem_nil _)
  have hPassword :=
    IStream.readWord_word password isSpace_newline [newline]
      rest (List.forall_mem_singleton.mpr isSpace_newline)
  unfold readCredentials credentialLines
  rw [List.nil_append] at hName
  rw [hName]
  dsimp only
  rw [List.append_assoc] at hPassword
  exact congrArg
    (fun read => ((name.bytes, read.1), read.2)) hPassword

/- The key `1`. -/
def loginKey : UInt8 := 49

theorem readInt_key
    {key : UInt8}
    {value : Int}
    {rest : Bytes}
    (hBlack : isSpace key = false)
    (hDigits :
      (takeSign (key :: newline :: rest)).2.dropWhile
          isDigit =
        newline :: rest)
    (hValue : stoi (key :: newline :: rest) = some value) :
    IStream.readInt { input := key :: newline :: rest } =
      (some value, { input := newline :: rest }) := by
  have hWhite :
      IStream.skipWhite { input := key :: newline :: rest } =
        { input := key :: newline :: rest } := by
    unfold IStream.skipWhite IStream.good
    simp only [Bool.not_false, Bool.and_self, if_true]
    rw [List.dropWhile_cons, hBlack]
    rfl
  unfold IStream.readInt
  rw [hWhite]
  dsimp only
  rw [hDigits, hValue]
  rfl

theorem stoi_loginKey (rest : Bytes) :
    stoi (loginKey :: newline :: rest) = some 1 := by
  have hNumber :
      leadingNumber (loginKey :: newline :: rest) =
        some 1 := rfl
  unfold stoi
  rw [hNumber]
  rfl

theorem ignoreLine_newline (rest : Bytes) :
    IStream.ignoreLine { input := newline :: rest } =
      { input := rest } := rfl

/- The three lines of a login. -/
theorem choose_login
    (name password : Word)
    (rest : Bytes) :
    choose
        { input :=
            loginKey :: newline ::
              credentialLines name password rest } =
      (.login name.bytes password.bytes,
        { input := newline :: rest }) := by
  have hRead := readCredentials_lines name password rest
  unfold choose
  rw [readInt_key rfl rfl (stoi_loginKey _)]
  dsimp only
  rw [ignoreLine_newline, hRead]
  rfl

------------------------------------------------------------
-- The End of the Input
------------------------------------------------------------

/- Every turn fails and clears the stream again. -/
theorem choose_exhausted
    {cin : IStream}
    (hEnd : cin.input = []) :
    (choose cin).1 = .invalid ∧
      (choose cin).2.input = [] := by
  have hSkip :
      cin.skipWhite.failbit = true ∧
        cin.skipWhite.input = [] := by
    unfold IStream.skipWhite
    split
    · rw [hEnd]
      exact ⟨rfl, rfl⟩
    · exact ⟨rfl, hEnd⟩
  have hRead : cin.readInt = (none, cin.skipWhite) := by
    unfold IStream.readInt
    dsimp only
    rw [if_pos hSkip.1]
  have hIgnored :
      (cin.skipWhite.clear.ignoreLine).input = [] := by
    unfold IStream.ignoreLine IStream.clear
    rw [hSkip.2]
    rfl
  unfold choose
  rw [hRead]
  dsimp only
  rw [if_pos hSkip.1]
  exact ⟨rfl, hIgnored⟩

end Client

end ClusterChat
