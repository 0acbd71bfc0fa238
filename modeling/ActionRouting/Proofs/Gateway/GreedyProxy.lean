import Mathlib.Data.List.Infix
import ActionRouting.Gateway.GreedyProxy
import ActionRouting.Proofs.Text.Scan

/-! Greedy proxy parts in a resource. A part is found from the left, it has to reach to the end, and
its name is as long as it can be. So it is the part that the resource ends with only if no other
placeholder opens before it; otherwise it begins at the first one. -/
namespace ActionRouting.Gateway

/-- A placeholder opens after a slash, with no line break behind it. -/
def OpensEarly (cs : List Char) : Prop :=
  ∃ before rest, cs = before ++ '/' :: '\x7b' :: rest ∧ '\n' ∉ rest

def opensAtFront : List Char → Bool
  | '/' :: '\x7b' :: rest => !rest.contains '\n'
  | _ => false

lemma opensEarly_iff {cs : List Char} : OpensEarly cs ↔ ∃ t ∈ cs.tails, opensAtFront t := by
  constructor
  · rintro ⟨before, rest, rfl, hrest⟩
    refine ⟨'/' :: '\x7b' :: rest, (List.mem_tails _ _).mpr ⟨before, rfl⟩, ?_⟩
    simpa [opensAtFront] using hrest
  · rintro ⟨t, ht, hopens⟩
    obtain ⟨before, rfl⟩ := (List.mem_tails _ _).mp ht
    unfold opensAtFront at hopens
    split at hopens
    · next rest => exact ⟨before, rest, rfl, by simpa using hopens⟩
    · cases hopens

instance (cs : List Char) : Decidable (OpensEarly cs) := decidable_of_iff' _ opensEarly_iff

lemma OpensEarly.cons {c : Char} {cs : List Char} (h : OpensEarly cs) : OpensEarly (c :: cs) := by
  obtain ⟨before, rest, rfl, hrest⟩ := h
  exact ⟨c :: before, rest, rfl, hrest⟩

/-- Of the placeholders that open there is a first one. -/
lemma OpensEarly.exists_first {cs : List Char} (h : OpensEarly cs) :
    ∃ before rest, cs = before ++ '/' :: '\x7b' :: rest ∧ '\n' ∉ rest ∧ ¬ OpensEarly before := by
  induction hn : cs.length using Nat.strongRecOn generalizing cs with
  | _ n ih =>
    subst hn
    obtain ⟨before, rest, rfl, hrest⟩ := h
    by_cases hbefore : OpensEarly before
    · obtain ⟨first, between, rfl, hbetween, hfirst⟩ := ih _ (by simp) hbefore rfl
      exact ⟨first, between ++ '/' :: '\x7b' :: rest, by simp, by simp [hrest, hbetween], hfirst⟩
    · exact ⟨before, rest, rfl, hrest, hbefore⟩

namespace GreedyProxy

variable {cs : List Char}

lemma chomp_append_singleton {c : Char} (hc : c ≠ '\n') (cs : List Char) :
    chomp (cs ++ [c]) = cs ++ [c] := by
  induction cs with
  | nil => simp [chomp, hc]
  | cons d cs ih =>
    have hne : d = '\n' → cs ++ [c] = [] → False := by simp
    rw [List.cons_append, chomp, ih]
    exact hne

/-- The part has a name, and no line break is in it. -/
def IsReadable (p : GreedyProxy) : Prop := p.name ≠ [] ∧ '\n' ∉ p.name

instance (p : GreedyProxy) : Decidable p.IsReadable := inferInstanceAs (Decidable (_ ∧ _))

variable {p : GreedyProxy}

lemma write_eq (p : GreedyProxy) :
    p.write = '/' :: '\x7b' :: (p.name ++ ['+', '\x7d']) := rfl

/-- A part that is written to the end of a text is read if it is readable. -/
lemma read?_write (before : Option Char) (p : GreedyProxy) :
    read? before p.write = if p.IsReadable then some p else none := by
  have hchomp : chomp (p.name ++ ['+', '\x7d']) = p.name ++ ['+', '\x7d'] := by
    simpa using chomp_append_singleton (c := '\x7d') (by decide) (p.name ++ ['+'])
  by_cases h : p.IsReadable
  · have hname : p.name ≠ [] := h.1
    simp [write_eq, read?, hchomp, h, h.2, hname]
  · have hname : p.name = [] ∨ '\n' ∈ p.name := by
      rw [IsReadable] at h
      tauto
    simp [write_eq, read?, hchomp, h, hname]

lemma read?_eq_none (before : Option Char) (h : ∀ rest, cs ≠ '/' :: '\x7b' :: rest) :
    read? before cs = none := by
  unfold read?
  split
  · exact absurd rfl (h _)
  · rfl

/-- Before the part that a resource ends with, a character that opens no placeholder begins no
part. -/
lemma read?_append_write {c : Char} (h : ¬ OpensEarly (c :: cs)) (before : Option Char)
    (p : GreedyProxy) : read? before (c :: cs ++ p.write) = none := by
  by_cases hopens : ∃ rest, c :: cs = '/' :: '\x7b' :: rest
  · obtain ⟨rest, hrest⟩ := hopens
    have hbreak : '\n' ∈ rest := by
      by_contra hn
      exact h ⟨[], rest, hrest, hn⟩
    have hwrite : c :: cs ++ p.write = write ⟨rest ++ '/' :: '\x7b' :: p.name⟩ := by
      simp [hrest, write_eq]
    rw [hwrite, read?_write, if_neg fun hr => hr.2 (List.mem_append_left _ hbreak)]
  · refine read?_eq_none before fun rest hrest => hopens ?_
    cases cs with
    | nil => simp [write_eq] at hrest
    | cons d cs =>
      obtain ⟨rfl, rfl, -⟩ : c = '/' ∧ d = '\x7b' ∧ cs ++ p.write = rest := by simpa using hrest
      exact ⟨cs, rfl⟩

lemma exists_piecesFrom_append (hcs : ¬ OpensEarly cs) (before : Option Char) (p : GreedyProxy) :
    ∃ last, scanner.piecesFrom 0 before (cs ++ p.write) =
      cs.map .plain ++ scanner.piecesFrom 0 last p.write := by
  induction cs generalizing before with
  | nil => exact ⟨before, rfl⟩
  | cons c cs ih =>
    have hread : scanner.read? before (c :: (cs ++ p.write)) = none :=
      read?_append_write hcs before p
    obtain ⟨last, hlast⟩ := ih (fun h => hcs h.cons) (some c)
    exact ⟨last, by rw [List.cons_append, Text.Scanner.piecesFrom, hread, hlast]; rfl⟩

/-- A resource in which no placeholder opens before its greedy proxy part is cut there. -/
lemma pieces_append_write (hcs : ¬ OpensEarly cs) (hp : p.IsReadable) :
    scanner.pieces (cs ++ p.write) = cs.map .plain ++ [.token p] := by
  obtain ⟨last, hlast⟩ := exists_piecesFrom_append hcs none p
  have hread : scanner.read? last (p.write ++ []) = some p := by
    rw [List.append_nil]
    exact (read?_write last p).trans (if_pos hp)
  have hpart := Text.Scanner.piecesFrom_write (List.cons_ne_nil _ _) hread
  rw [List.append_nil] at hpart
  rw [Text.Scanner.pieces, hlast]
  exact congrArg (_ ++ ·) hpart

lemma piecesFrom_of_not_mem (h : '\x7b' ∉ cs) (before : Option Char) :
    scanner.piecesFrom 0 before cs = cs.map .plain := by
  induction cs generalizing before with
  | nil => rfl
  | cons c cs ih =>
    have hread : scanner.read? before (c :: cs) = none := read?_eq_none before fun rest hrest =>
      h (hrest ▸ List.mem_cons_of_mem _ List.mem_cons_self)
    rw [Text.Scanner.piecesFrom, hread, ih fun hc => h (List.mem_cons_of_mem _ hc)]
    rfl

/-- What is written like a part but cannot be read is plain text. -/
lemma pieces_append_write_of_not_isReadable (hcs : ¬ OpensEarly cs) (hbrace : '\x7b' ∉ p.name)
    (hp : ¬ p.IsReadable) : scanner.pieces (cs ++ p.write) = (cs ++ p.write).map .plain := by
  obtain ⟨last, hlast⟩ := exists_piecesFrom_append hcs none p
  have hread : scanner.read? last p.write = none := (read?_write last p).trans (if_neg hp)
  have hopen : scanner.read? (some '/') ('\x7b' :: (p.name ++ ['+', '\x7d'])) = none := rfl
  rw [write_eq] at hread
  rw [Text.Scanner.pieces, hlast, write_eq, Text.Scanner.piecesFrom, hread]
  simp only
  rw [Text.Scanner.piecesFrom, hopen]
  simp only
  rw [piecesFrom_of_not_mem (by simpa using hbrace)]
  simp

lemma find?_append_write (hcs : ¬ OpensEarly cs) (hp : p.IsReadable) :
    find? (cs ++ p.write) = some p := by
  rw [find?, Text.Scanner.tokens, pieces_append_write hcs hp, Text.Scanner.located_plains]
  rfl

lemma strip_append_write (hcs : ¬ OpensEarly cs) (hp : p.IsReadable) :
    strip (cs ++ p.write) = cs := by
  rw [strip, Text.Scanner.replace, pieces_append_write hcs hp]
  simp [List.flatMap_map]

lemma find?_append_write_of_not_isReadable (hcs : ¬ OpensEarly cs) (hbrace : '\x7b' ∉ p.name)
    (hp : ¬ p.IsReadable) : find? (cs ++ p.write) = none := by
  have hpieces := pieces_append_write_of_not_isReadable hcs hbrace hp
  rw [← List.append_nil (List.map _ _)] at hpieces
  rw [find?, Text.Scanner.tokens, hpieces, Text.Scanner.located_plains]
  rfl

lemma strip_append_write_of_not_isReadable (hcs : ¬ OpensEarly cs) (hbrace : '\x7b' ∉ p.name)
    (hp : ¬ p.IsReadable) : strip (cs ++ p.write) = cs ++ p.write := by
  rw [strip, Text.Scanner.replace, pieces_append_write_of_not_isReadable hcs hbrace hp]
  simp [List.flatMap_map]

end GreedyProxy

end ActionRouting.Gateway
