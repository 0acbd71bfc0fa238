import ActionRouting.Proofs.Regex.Groups
import ActionRouting.Proofs.Regex.Reading

/-! What a parser that read its tokens without fault holds: each token adds to the branch that is
being read, or encloses what is read until its group is left. -/
namespace ActionRouting.Regex

namespace Parser

variable {p q r : Parser} {t : Token} {ts us : List Token}

/-- Reading has added some expressions to the current branch and is back in its group. -/
structure Grows (p q : Parser) (nodes : List Node) : Prop where
  outer : q.outer = p.outer
  opening : q.frame.opening = p.frame.opening
  flags : q.frame.flags = p.frame.flags
  branches : q.frame.branches = p.frame.branches
  branch : q.frame.branch = p.frame.branch ++ nodes

lemma run_cons_eq_ok (h : p.run (t :: ts) = .ok r) :
    ∃ q, p.step t = .ok q ∧ q.run ts = .ok r := by
  rw [run_cons] at h
  cases hs : p.step t with
  | error e =>
    rw [hs] at h
    cases h
  | ok q =>
    rw [hs] at h
    exact ⟨q, rfl, h⟩

lemma run_append_eq_ok (h : p.run (ts ++ us) = .ok r) :
    ∃ q, p.run ts = .ok q ∧ q.run us = .ok r := by
  rw [run_append] at h
  cases hs : p.run ts with
  | error e =>
    rw [hs] at h
    cases h
  | ok q =>
    rw [hs] at h
    exact ⟨q, rfl, h⟩

lemma run_singleton_eq_ok (h : p.run [t] = .ok r) : p.step t = .ok r := by
  obtain ⟨q, hq, hr⟩ := run_cons_eq_ok h
  cases hr
  exact hq

lemma Grows.refl (p : Parser) : Grows p p [] :=
  ⟨rfl, rfl, rfl, rfl, (List.append_nil _).symm⟩

lemma Grows.trans {nodes more : List Node} (h : Grows p q nodes) (h' : Grows q r more) :
    Grows p r (nodes ++ more) where
  outer := h'.outer.trans h.outer
  opening := h'.opening.trans h.opening
  flags := h'.flags.trans h.flags
  branches := h'.branches.trans h.branches
  branch := by rw [h'.branch, h.branch, List.append_assoc]

lemma grows_push (p : Parser) (n : Node) : Grows p (p.push n) [n] where
  outer := rfl
  opening := rfl
  flags := rfl
  branches := rfl
  branch := by simp [push, Frame.branch, Part.nodes]

/-- A set that is repeated is added once. -/
lemma grows_repeated {negated : Bool} {members : List Member} {mode : Mode} {lo : Nat}
    {hi : Option Nat} (h : (p.pushChars negated members).repeatLast mode lo hi = .ok q) :
    Grows p q [.ofRepetition mode lo hi (.chars ⟨negated, members.eraseDups, p.frame.flags.casing,
      p.frame.flags.ascii⟩)] := by
  obtain ⟨part, rest, late, hparts, rfl⟩ := repeatLast_eq_ok h
  obtain ⟨rfl, rfl⟩ := List.cons.inj hparts
  exact ⟨rfl, rfl, rfl, rfl, by simp [Frame.branch, Part.nodes, Part.node]⟩

/-- A capture group that is opened has the next number. -/
lemma openCapture_eq_ok {name : Option String} (h : p.openCapture name = .ok q) :
    q.outer = p.frame :: p.outer ∧
      q.frame = { opening := .capture (p.groups.length + 1), flags := p.frame.flags } ∧
      q.groups = p.groups ++ [none] := by
  unfold openCapture at h
  dsimp only at h
  split at h
  · cases enter_eq_ok h
    exact ⟨rfl, rfl, rfl⟩
  · split at h
    · cases h
    · cases enter_eq_ok h
      exact ⟨rfl, rfl, rfl⟩

/-- A capture group that is left adds itself, with what was read inside. -/
lemma grows_capture {name : Option String} {p₁ p₂ : Parser} (h₁ : p.openCapture name = .ok p₁)
    (ho : p₂.outer = p₁.outer) (hi : p₂.frame.opening = p₁.frame.opening)
    (h₂ : p₂.leave = .ok q) : Grows p q [.group (p.groups.length + 1) p₂.frame.node] := by
  obtain ⟨houter, hframe, -⟩ := openCapture_eq_ok h₁
  rw [houter] at ho
  rw [hframe] at hi
  unfold leave at h₂
  rw [ho] at h₂
  dsimp only at h₂
  rw [hi] at h₂
  cases h₂
  exact ⟨rfl, rfl, rfl, rfl, by simp [push, Frame.branch, Part.nodes]⟩

end Parser

/-- A regular expression that is accepted holds what was read, and a search is prepared for it. -/
lemma compile_root {flags : Flags} {source : String} {r : Regex}
    (h : compile flags source = .ok r) :
    ∃ p : Parser, (Parser.start flags).run (tokens flags.verbose source.toList) = .ok p ∧
      r.source = source ∧ r.root = p.frame.node ∧ r.groupCount = p.groups.length ∧
      r.first = firstOf r.flags r.root ∧ (∃ least, (r.room, r.shortest) = roomOf r.root least) ∧
      r.byTrial = r.root.asksOwnGroup := by
  obtain ⟨p, hp, hr⟩ := compile_eq_ok h
  obtain ⟨-, room, shortest, least, hroom, rfl⟩ := ofParser_eq_ok hr
  exact ⟨p, hp, rfl, rfl, rfl, rfl, ⟨least, hroom.symm⟩, rfl⟩

end ActionRouting.Regex
