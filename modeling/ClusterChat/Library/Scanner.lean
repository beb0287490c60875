import Mathlib.Data.List.Basic

/-
  A scanner takes one token at a time off its input, and it
  stops behind a token that is marked as the last one.

  Main declarations:
    * `Scanner` and `Scanner.tokens`
    * `Scanner.tokens_eq`
    * `Scanner.Reads` and `Scanner.tokens_of_reads`
-/

------------------------------------------------------------
-- Scanners
------------------------------------------------------------

/-
  How the next token is taken off, and which tokens end the
  input.  Every other token is at least one symbol long.
-/
structure Scanner (α Token : Type) where
  scan : List α → Token × List α
  isLast : Token → Bool
  shortens :
    ∀ input,
      isLast (scan input).1 = false →
        (scan input).2.length < input.length

namespace Scanner

variable {α Token : Type} (scanner : Scanner α Token)

/- At most so many tokens. -/
def tokensWithin : Nat → List α → List Token
| 0, _ => []
| bound + 1, input =>
    let next := scanner.scan input
    if scanner.isLast next.1 then
      [next.1]
    else
      next.1 :: tokensWithin bound next.2

/- The tokens of an input, up to the last one. -/
def tokens (input : List α) : List Token :=
  scanner.tokensWithin (input.length + 1) input

/- A bound above the length of the input is none. -/
theorem tokensWithin_eq
    {bound : Nat}
    {input : List α}
    (hBound : input.length < bound) :
    scanner.tokensWithin bound input =
      scanner.tokens input := by
  have hBoth :
      ∀ (size other : Nat) (input : List α),
        input.length < size →
          input.length < other →
            scanner.tokensWithin size input =
              scanner.tokensWithin other input := by
    intro size
    induction size with
    | zero => exact fun _ _ hSize => absurd hSize (by simp)
    | succ size ih =>
        intro other input hSize hOther
        cases other with
        | zero => exact absurd hOther (by simp)
        | succ other =>
            unfold tokensWithin
            dsimp only
            split
            · rfl
            · rename_i hLast
              have hShorter :=
                scanner.shortens input (by simpa using hLast)
              rw [ih other (scanner.scan input).2 (by omega)
                (by omega)]
  exact hBoth bound _ input hBound (Nat.lt_succ_self _)

/- The first token, and those of what is left. -/
theorem tokens_eq (input : List α) :
    scanner.tokens input =
      if scanner.isLast (scanner.scan input).1 then
        [(scanner.scan input).1]
      else
        (scanner.scan input).1 ::
          scanner.tokens (scanner.scan input).2 := by
  unfold tokens
  rw [tokensWithin]
  split
  · rfl
  · rename_i hLast
    have hShorter :=
      scanner.shortens input (by simpa using hLast)
    rw [tokensWithin_eq scanner hShorter]
    rfl

/- Every token has been scanned somewhere. -/
theorem exists_scan_of_mem_tokens
    {scanner : Scanner α Token}
    {input : List α}
    {token : Token}
    (hToken : token ∈ scanner.tokens input) :
    ∃ somewhere, (scanner.scan somewhere).1 = token := by
  have hAll :
      ∀ (bound : Nat) (input : List α),
        token ∈ scanner.tokensWithin bound input →
          ∃ somewhere,
            (scanner.scan somewhere).1 = token := by
    intro bound
    induction bound with
    | zero =>
        intro input hMember
        cases hMember
    | succ bound ih =>
        intro input hMember
        unfold tokensWithin at hMember
        dsimp only at hMember
        split at hMember
        · exact ⟨input, (List.mem_singleton.mp hMember).symm⟩
        · rcases List.mem_cons.mp hMember with hHere | hThere
          · exact ⟨input, hHere.symm⟩
          · exact ih _ hThere
  exact hAll _ input hToken

/- Nothing comes behind the last token. -/
theorem tokensWithin_end
    {bound : Nat}
    {input : List α}
    {front rest : List Token}
    {token : Token}
    (hTokens :
      scanner.tokensWithin bound input =
        front ++ token :: rest)
    (hLast : scanner.isLast token = true) :
    rest = [] := by
  induction bound generalizing input front with
  | zero => simp [tokensWithin] at hTokens
  | succ bound ih =>
      unfold tokensWithin at hTokens
      dsimp only at hTokens
      cases front with
      | nil =>
          split at hTokens
          · exact (List.cons.inj hTokens).2.symm
          · rename_i hInner
            have hFirst := (List.cons.inj hTokens).1
            rw [hFirst] at hInner
            exact absurd hLast hInner
      | cons first front =>
          split at hTokens
          · simp at hTokens
          · exact ih (List.cons.inj hTokens).2

/- The tokens that lead from one input to the rest. -/
inductive Reads : List α → List Token → List α → Prop where
| nil (input : List α) : Reads input [] input
| cons
    {input between rest : List α}
    {token : Token} {tokens : List Token}
    (first : scanner.scan input = (token, between))
    (inner : scanner.isLast token = false)
    (others : Reads between tokens rest) :
    Reads input (token :: tokens) rest

variable {scanner}

theorem reads_one
    {input rest : List α}
    {token : Token}
    (hFirst : scanner.scan input = (token, rest))
    (hInner : scanner.isLast token = false) :
    scanner.Reads input [token] rest :=
  Reads.cons hFirst hInner (Reads.nil rest)

theorem Reads.append
    {input between rest : List α}
    {front back : List Token}
    (hFront : scanner.Reads input front between)
    (hBack : scanner.Reads between back rest) :
    scanner.Reads input (front ++ back) rest := by
  induction hFront with
  | nil input => exact hBack
  | cons first inner others ih =>
      exact Reads.cons first inner (ih hBack)

/- What was read comes first among the tokens. -/
theorem tokens_of_reads
    {input rest : List α}
    {front : List Token}
    (hReads : scanner.Reads input front rest) :
    scanner.tokens input = front ++ scanner.tokens rest := by
  induction hReads with
  | nil input => rfl
  | cons first inner others ih =>
      rw [tokens_eq, first, if_neg (by simpa using inner), ih]
      rfl

end Scanner
