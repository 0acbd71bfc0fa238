/-! Finding tokens in a text from left to right. Characters that begin no token stand alone. -/
namespace ActionRouting.Text

inductive Piece (τ : Type)
  | plain (c : Char)
  | token (t : τ)
  deriving DecidableEq, Repr

/-- A kind of token: how one is read, given the character before it and the text it begins, and how
it is written. -/
structure Scanner (τ : Type) where
  read? : Option Char → List Char → Option τ
  write : τ → List Char

namespace Scanner

variable {τ : Type}

/-- The pieces of a text of which the first `skip` characters belong to a token already read. -/
def piecesFrom (sc : Scanner τ) : Nat → Option Char → List Char → List (Piece τ)
  | _, _, [] => []
  | skip + 1, _, c :: cs => piecesFrom sc skip (some c) cs
  | 0, before, c :: cs =>
    match sc.read? before (c :: cs) with
    | some t => .token t :: piecesFrom sc ((sc.write t).length - 1) (some c) cs
    | none => .plain c :: piecesFrom sc 0 (some c) cs

def pieces (sc : Scanner τ) (cs : List Char) : List (Piece τ) :=
  piecesFrom sc 0 none cs

def text (sc : Scanner τ) : Piece τ → List Char
  | .plain c => [c]
  | .token t => sc.write t

/-- The tokens with the positions where they begin, the first piece being at `start`. -/
def located (sc : Scanner τ) (start : Nat) : List (Piece τ) → List (Nat × τ)
  | [] => []
  | .plain _ :: rest => located sc (start + 1) rest
  | .token t :: rest => (start, t) :: located sc (start + (sc.write t).length) rest

/-- The tokens of a text with the positions where they begin. -/
def tokens (sc : Scanner τ) (cs : List Char) : List (Nat × τ) :=
  sc.located 0 (sc.pieces cs)

def replace (sc : Scanner τ) (image : τ → List Char) (cs : List Char) : List Char :=
  (sc.pieces cs).flatMap fun
    | .plain c => [c]
    | .token t => image t

/-- A text with each token replaced in turn, by a rule that carries a state along. -/
def replaceWith {σ : Type} (sc : Scanner τ) (image : σ → τ → σ × List Char) (state : σ)
    (cs : List Char) : List Char :=
  ((sc.pieces cs).foldl (fun (done : σ × List (List Char)) piece =>
    match piece with
    | .plain c => (done.1, [c] :: done.2)
    | .token t =>
      let (state, out) := image done.1 t
      (state, out :: done.2)) (state, [])).2.reverse.flatten

end Scanner

end ActionRouting.Text
